import Screenlock.Foundation.History
import Screenlock.Watch.Soundness

/-! # Who holds the observers of windows

The record of bundles beside the pointer `appStateObserver_` and the observers
the application manager has, told apart as objects. The pointer outlives a
refused unregistration and is replaced by the next registration, so an observer
can be registered that nothing holds any more.
-/

namespace Screenlock

open Foundation

/-- Identity of an `AppStateObserver` object. -/
abbrev AppStateObserver := Nat

/-- The calls that change an `UnlockedRecord`. -/
inductive RecordCall where
  | add (element : String)
  | remove (element : String)
  | clear
  deriving DecidableEq, Repr

structure ObservedRecord where
  elements : Finset String := ∅
  /-- `appStateObserver_`, and which object it points to. -/
  appStateObserver : Option AppStateObserver := none
  /-- Registered with the application manager. -/
  registered : List AppStateObserver := []
  /-- Objects made so far. -/
  created : Nat := 0
  deriving DecidableEq

namespace ObservedRecord

/-- A record as it is constructed. -/
def empty : ObservedRecord := {}

section Calls

variable (succeeds : Bool) (record : ObservedRecord)

/-- Makes an object and registers it; a refused one is held all the same. -/
def registerAppStateObserver : ObservedRecord :=
  { record with
    appStateObserver := some record.created
    registered :=
      if succeeds then record.registered ++ [record.created] else record.registered
    created := record.created + 1 }

/-- A refused unregistration keeps the pointer. -/
def unregisterAppStateObserver : ObservedRecord :=
  match record.appStateObserver with
  | none => record
  | some observer =>
      if succeeds then
        { record with
          appStateObserver := none
          registered := record.registered.erase observer }
      else record

/-- Whether the element is new, and the record with it. -/
def add (element : String) : Bool × ObservedRecord :=
  let watched :=
    if record.elements = ∅ then record.registerAppStateObserver succeeds else record
  (element ∉ watched.elements, { watched with elements := insert element watched.elements })

/-- Whether the element was there, and the record without it. -/
def remove (element : String) : Bool × ObservedRecord :=
  let removed := { record with elements := record.elements.erase element }
  (element ∈ record.elements,
    if removed.elements = ∅ then removed.unregisterAppStateObserver succeeds else removed)

def clear : ObservedRecord :=
  { record with elements := ∅ }.unregisterAppStateObserver succeeds

end Calls

/-- A call of the record, and the answer of the application manager to the one
call it may make. -/
def step (record : ObservedRecord) (entry : RecordCall × Bool) : ObservedRecord :=
  match entry.1 with
  | .add element => (record.add entry.2 element).2
  | .remove element => (record.remove entry.2 element).2
  | .clear => record.clear entry.2

/-- Every call can come at any time, with either answer. -/
def machine : Machine ObservedRecord (RecordCall × Bool) where
  enabled _ _ := True
  step := step

section Properties

variable (record : ObservedRecord) (call : RecordCall)

/-- The call registers an observer. -/
def Registers : Prop := (∃ element, call = .add element) ∧ record.elements = ∅

/-- The call leaves the record empty. -/
def Empties : Prop :=
  match call with
  | .add _ => False
  | .remove element => record.elements.erase element = ∅
  | .clear => True

/-- If the call reaches the application manager, that succeeds. -/
def Succeeds (record : ObservedRecord) (entry : RecordCall × Bool) : Prop :=
  record.Registers entry.1 ∨ (record.Empties entry.1 ∧ record.appStateObserver ≠ none) →
    entry.2 = true

/-- No observer is registered over one that still is. -/
def RegistersAlone (record : ObservedRecord) (entry : RecordCall × Bool) : Prop :=
  record.Registers entry.1 → record.registered = []

/-- A registration that succeeds. -/
def RegistersNew (record : ObservedRecord) (entry : RecordCall × Bool) : Prop :=
  record.Registers entry.1 ∧ entry.2 = true

/-- An unregistration that succeeds. -/
def TakesBack (record : ObservedRecord) (entry : RecordCall × Bool) : Prop :=
  record.Empties entry.1 ∧ entry.2 = true

/-- At most one observer is registered, and it is the one that is held. -/
def Accounted : Prop :=
  record.registered.length ≤ 1 ∧
    ∀ observer ∈ record.registered, record.appStateObserver = some observer

/-- An observer is registered exactly while the record has elements. -/
def Watches : Prop := record.registered.length = 1 ↔ record.elements ≠ ∅

/-- No registered observer is yet to be made. -/
def Made : Prop := ∀ observer ∈ record.registered, observer < record.created

instance : Decidable record.Accounted := inferInstanceAs (Decidable (_ ∧ _))

end Properties

section Steps

variable {record : ObservedRecord} {succeeds : Bool}

/-- What a step does: it registers a new object, takes the held one back, or
leaves both where they are. -/
theorem step_cases (record : ObservedRecord) (entry : RecordCall × Bool) :
    (record.Registers entry.1 ∧ (record.step entry).elements ≠ ∅ ∧
      (record.step entry).appStateObserver = some record.created ∧
      (record.step entry).registered =
        (if entry.2 then record.registered ++ [record.created] else record.registered) ∧
      (record.step entry).created = record.created + 1) ∨
    (record.Empties entry.1 ∧ record.step entry =
      { record with elements := ∅ }.unregisterAppStateObserver entry.2) ∨
    (¬ record.Registers entry.1 ∧ ¬ record.Empties entry.1 ∧
      record.elements ≠ ∅ ∧ (record.step entry).elements ≠ ∅ ∧
      ∃ elements, record.step entry = { record with elements := elements }) := by
  obtain ⟨call, succeeds⟩ := entry
  cases call with
  | add element =>
      by_cases hempty : record.elements = ∅
      · refine Or.inl ⟨⟨⟨element, rfl⟩, hempty⟩, ?_⟩
        simp [step, add, hempty, registerAppStateObserver]
      · refine Or.inr (Or.inr ⟨fun hregisters => hempty hregisters.2, id, hempty, ?_⟩)
        simp [step, add, hempty]
  | remove element =>
      by_cases hempty : record.elements.erase element = ∅
      · refine Or.inr (Or.inl ⟨hempty, ?_⟩)
        simp [step, remove, hempty]
      · have helements : record.elements ≠ ∅ := by
          intro hnone
          simp [hnone] at hempty
        refine Or.inr (Or.inr ⟨?_, hempty, helements, ?_⟩)
        · rintro ⟨⟨element, hadd⟩, -⟩
          cases hadd
        · simp [step, remove, hempty]
  | clear => exact Or.inr (Or.inl ⟨trivial, rfl⟩)

theorem unregisterAppStateObserver_of_refused :
    record.unregisterAppStateObserver false = record := by
  unfold unregisterAppStateObserver
  split <;> rfl

/-- A registered observer that is taken back is the one that was held. -/
theorem unregisterAppStateObserver_registered :
    (record.unregisterAppStateObserver succeeds).registered.Sublist record.registered := by
  unfold unregisterAppStateObserver
  split
  next => exact List.Sublist.refl _
  next observer hheld =>
    split
    next => exact List.erase_sublist
    next => exact List.Sublist.refl _

@[simp] theorem unregisterAppStateObserver_elements :
    (record.unregisterAppStateObserver succeeds).elements = record.elements := by
  unfold unregisterAppStateObserver
  split
  next => rfl
  next => split <;> rfl

@[simp] theorem unregisterAppStateObserver_created :
    (record.unregisterAppStateObserver succeeds).created = record.created := by
  unfold unregisterAppStateObserver
  split
  next => rfl
  next => split <;> rfl

/-- If all that is registered is held, a successful unregistration takes it back. -/
theorem registered_unregisterAppStateObserver (haccounted : record.Accounted)
    (hsucceeds : record.appStateObserver ≠ none → succeeds = true) :
    (record.unregisterAppStateObserver succeeds).registered = [] := by
  obtain ⟨hlength, hheld⟩ := haccounted
  unfold unregisterAppStateObserver
  cases hpointer : record.appStateObserver with
  | none =>
      rw [hpointer] at hheld
      exact List.eq_nil_iff_forall_not_mem.mpr fun observer hmem => nomatch hheld observer hmem
  | some held =>
      rw [hpointer] at hheld hsucceeds
      rw [hsucceeds (Option.some_ne_none held)]
      cases hregistered : record.registered with
      | nil => rfl
      | cons observer rest =>
          rw [hregistered] at hlength hheld
          obtain rfl : held = observer := Option.some.inj (hheld observer List.mem_cons_self)
          obtain rfl : rest = [] := List.length_eq_zero_iff.mp (by simpa using hlength)
          simp

theorem accounted_unregisterAppStateObserver (haccounted : record.Accounted) :
    (record.unregisterAppStateObserver succeeds).Accounted := by
  cases succeeds with
  | false => rwa [unregisterAppStateObserver_of_refused]
  | true =>
      have hnone := registered_unregisterAppStateObserver haccounted (fun _ => rfl)
      simp [Accounted, hnone]

variable {entry : RecordCall × Bool}

theorem made_step (hmade : record.Made) : (record.step entry).Made := by
  rcases record.step_cases entry with ⟨-, -, -, hregistered, hcreated⟩ |
    ⟨-, hstep⟩ | ⟨-, -, -, -, elements, hstep⟩
  · intro observer hmem
    rw [hregistered] at hmem
    rw [hcreated]
    split at hmem
    next =>
      rcases List.mem_append.mp hmem with hbefore | hnew
      · exact Nat.lt_succ_of_lt (hmade observer hbefore)
      · rw [List.mem_singleton.mp hnew]
        exact Nat.lt_succ_self _
    next => exact Nat.lt_succ_of_lt (hmade observer hmem)
  · intro observer hmem
    rw [hstep] at hmem ⊢
    rw [unregisterAppStateObserver_created]
    have hbefore := unregisterAppStateObserver_registered.subset hmem
    exact hmade observer hbefore
  · rw [hstep]
    exact hmade

/-- A step keeps all that is registered in hand unless it registers an observer
over one that still is. -/
theorem accounted_step_iff (hmade : record.Made) (haccounted : record.Accounted) :
    (record.step entry).Accounted ↔ record.RegistersAlone entry := by
  rcases record.step_cases entry with ⟨hregisters, -, hpointer, hregistered, -⟩ |
    ⟨hempties, hstep⟩ | ⟨hregisters, -, -, -, elements, hstep⟩
  · constructor
    · rintro ⟨hlength, hheld⟩ -
      refine List.eq_nil_iff_forall_not_mem.mpr fun observer hmem => ?_
      rw [hregistered] at hlength hheld
      rw [hpointer] at hheld
      have hkept : record.created = observer := by
        refine Option.some.inj (hheld observer ?_)
        split
        next => exact List.mem_append_left _ hmem
        next => exact hmem
      exact Nat.ne_of_gt (hmade observer hmem) hkept
    · intro halone
      rw [halone hregisters] at hregistered
      unfold Accounted
      rw [hregistered, hpointer]
      split <;> simp
  · have hkept : (record.step entry).Accounted := by
      rw [hstep]
      exact accounted_unregisterAppStateObserver haccounted
    refine iff_of_true hkept fun hregisters => ?_
    obtain ⟨⟨element, hadd⟩, -⟩ := hregisters
    rw [hadd] at hempties
    exact hempties.elim
  · rw [hstep]
    exact iff_of_true haccounted fun hnow => absurd hnow hregisters

theorem registered_step_iff (haccounted : record.Accounted) :
    (record.step entry).registered ≠ [] ↔
      record.RegistersNew entry ∨ (record.registered ≠ [] ∧ ¬ record.TakesBack entry) := by
  obtain ⟨call, succeeds⟩ := entry
  rcases record.step_cases (call, succeeds) with ⟨hregisters, -, -, hregistered, -⟩ |
    ⟨hempties, hstep⟩ | ⟨hregisters, hempties, -, -, elements, hstep⟩
  · have hkept : ¬ record.Empties call := by
      obtain ⟨⟨element, rfl⟩, -⟩ := hregisters
      exact id
    rw [hregistered]
    cases succeeds with
    | false => simp [RegistersNew, TakesBack, hkept]
    | true => simp [RegistersNew, hregisters]
  · have hnot : ¬ record.Registers call := by
      rintro ⟨⟨element, rfl⟩, -⟩
      exact hempties
    rw [hstep]
    cases succeeds with
    | false =>
        rw [unregisterAppStateObserver_of_refused]
        simp [RegistersNew, TakesBack]
    | true =>
        have hnone := @registered_unregisterAppStateObserver { record with elements := ∅ } true
          haccounted fun _ => rfl
        rw [hnone]
        simp [RegistersNew, TakesBack, hnot, hempties]
  · rw [hstep]
    simp [RegistersNew, TakesBack, hregisters, hempties]

/-- While nothing is lost, a step whose call succeeds watches the record it leaves. -/
theorem watches_step (haccounted : record.Accounted) (hwatches : record.Watches)
    (halone : record.RegistersAlone entry) (hsucceeds : record.Succeeds entry) :
    (record.step entry).Watches := by
  rcases record.step_cases entry with ⟨hregisters, helements, -, hregistered, -⟩ |
    ⟨hempties, hstep⟩ | ⟨-, -, hbefore, helements, elements, hstep⟩
  · refine iff_of_true ?_ helements
    rw [hregistered, hsucceeds (Or.inl hregisters), halone hregisters]
    rfl
  · have hnone : (record.step entry).registered = [] := by
      rw [hstep]
      refine registered_unregisterAppStateObserver haccounted fun hheld => ?_
      exact hsucceeds (Or.inr ⟨hempties, hheld⟩)
    refine iff_of_false (by simp [hnone]) ?_
    rw [hstep, unregisterAppStateObserver_elements]
    simp
  · refine iff_of_true ?_ helements
    rw [hstep]
    exact hwatches.mpr hbefore

end Steps

section Runs

/-- Observers are neither lost nor doubled on the way, and while all calls have
succeeded one is registered exactly if the record has elements. -/
def NeitherLeakedNorDoubled (entries : List (RecordCall × Bool)) : Prop :=
  ∀ before, before <+: entries →
    (machine.run empty before).Accounted ∧
      (machine.Steps Succeeds empty before → (machine.run empty before).Watches)

theorem made_run (entries : List (RecordCall × Bool)) : (machine.run empty entries).Made := by
  refine machine.run_invariant (fun _ _ _ => made_step) ?_ ?_
  · exact machine.admits_of_enabled (fun _ _ => trivial) _ _
  · intro observer hmem
    cases hmem

theorem neitherLeakedNorDoubled_iff_steps (entries : List (RecordCall × Bool)) :
    NeitherLeakedNorDoubled entries ↔ machine.Steps RegistersAlone empty entries := by
  rw [machine.steps_iff_prefixes]
  refine prefixes_iff ⟨by decide, fun _ => ?_⟩ fun past entry _ hpast => ?_
  · exact iff_of_false (by decide) (by decide)
  · obtain ⟨haccounted, hwatches⟩ := hpast
    have hstep := @accounted_step_iff _ entry (made_run past) haccounted
    rw [machine.run_concat]
    constructor
    · rintro ⟨hkept, -⟩
      exact hstep.mp hkept
    · intro halone
      refine ⟨hstep.mpr halone, fun hsucceed => ?_⟩
      obtain ⟨hbefore, hentry⟩ := (machine.steps_concat _ _ _ _).mp hsucceed
      exact watches_step haccounted (hwatches hbefore) halone hentry

variable {entries : List (RecordCall × Bool)}

/-- Where every call succeeds, nothing is ever lost. -/
theorem neitherLeakedNorDoubled_of_succeeds (hsucceeds : machine.Steps Succeeds empty entries) :
    NeitherLeakedNorDoubled entries := by
  rw [neitherLeakedNorDoubled_iff_steps]
  induction entries using List.reverseRecOn with
  | nil => trivial
  | append_singleton past last ih =>
      obtain ⟨hpast, -⟩ := (machine.steps_concat _ _ _ _).mp hsucceeds
      have halone := ih hpast
      obtain ⟨haccounted, hwatches⟩ :=
        (neitherLeakedNorDoubled_iff_steps past).mpr halone past List.prefix_rfl
      refine (machine.steps_concat _ _ _ _).mpr ⟨halone, fun hregisters => ?_⟩
      have hlength : (machine.run empty past).registered.length ≠ 1 := fun hone =>
        (hwatches hpast).mp hone hregisters.2
      have := haccounted.1
      exact List.length_eq_zero_iff.mp (by omega)

/-- While nothing is lost, something is registered if a registration succeeded
and no unregistration has since. -/
theorem registered_iff_since (halone : machine.Steps RegistersAlone empty entries) :
    (machine.run empty entries).registered ≠ [] ↔
      machine.Since RegistersNew TakesBack empty entries := by
  induction entries using List.reverseRecOn with
  | nil => exact iff_of_false (by decide) Machine.not_since_nil
  | append_singleton past entry ih =>
      obtain ⟨hpast, -⟩ := (machine.steps_concat _ _ _ _).mp halone
      have haccounted := (neitherLeakedNorDoubled_iff_steps past).mpr hpast past List.prefix_rfl
      rw [machine.run_concat, Machine.since_concat, ← ih hpast]
      exact registered_step_iff haccounted.1

/-- Nothing is lost exactly if each registration that succeeds is taken back before
the next one. -/
theorem neitherLeakedNorDoubled_iff (entries : List (RecordCall × Bool)) :
    NeitherLeakedNorDoubled entries ↔
      ∀ before entry, before ++ [entry] <+: entries →
        (machine.run empty before).Registers entry.1 →
          ¬ machine.Since RegistersNew TakesBack empty before := by
  rw [neitherLeakedNorDoubled_iff_steps]
  induction entries using List.reverseRecOn with
  | nil => exact iff_of_true trivial fun before entry hbefore => by simp at hbefore
  | append_singleton past last ih =>
      rw [machine.steps_concat, forall_prefix_concat, ← ih]
      refine and_congr_right fun hpast => ?_
      rw [← registered_iff_since hpast, not_not]
      rfl

end Runs

/-- The unregistration after the only bundle fails, and the next bundle comes. -/
def refusedOnce : List (RecordCall × Bool) :=
  [(.add "a", true), (.remove "a", false), (.add "a", true)]

/-- Two observers are registered then, and the first is held by nobody. -/
theorem refusedOnce_doubled :
    ¬ NeitherLeakedNorDoubled refusedOnce ∧
      (machine.run empty refusedOnce).registered = [0, 1] ∧
      (machine.run empty refusedOnce).appStateObserver = some 1 := by
  have hrun : ¬ (machine.run empty refusedOnce).Accounted := by decide
  exact ⟨fun hall => hrun (hall _ List.prefix_rfl).1, by decide, by decide⟩

end ObservedRecord

/-! The application lock counts its observers; here they are told apart. -/

namespace WatchAppLockManager

/-- The manager's count and pointer are those of the record, and what is held is registered. -/
structure Tracks (manager : WatchAppLockManager) (record : ObservedRecord) : Prop where
  elements : manager.unlockedRecord = record.elements
  pointer : manager.appStateObserver = record.appStateObserver.isSome
  count : manager.appStateObservers = record.registered.length
  held : ∀ observer, record.appStateObserver = some observer → observer ∈ record.registered

section Operations

variable {platform : WatchPlatform} {manager : WatchAppLockManager} {record : ObservedRecord}

/-- The unregistration of the leave-wrist observer touches none of this. -/
theorem unwatch_fields :
    (manager.unwatch platform).unlockedRecord =
        (manager.unregisterAppStateObserver platform).unlockedRecord ∧
      (manager.unwatch platform).appStateObserver =
        (manager.unregisterAppStateObserver platform).appStateObserver ∧
      (manager.unwatch platform).appStateObservers =
        (manager.unregisterAppStateObserver platform).appStateObservers := by
  unfold unwatch unregisterLeaveWristSettingObserver
  split <;> exact ⟨rfl, rfl, rfl⟩

theorem tracks_unwatch (htracks : manager.Tracks record) :
    (manager.unwatch platform).Tracks
      (record.unregisterAppStateObserver platform.unregistersAppState) := by
  obtain ⟨helements, hpointer, hcount, hheld⟩ := htracks
  obtain ⟨hunlocked, hobserver, hobservers⟩ := @unwatch_fields platform manager
  unfold unregisterAppStateObserver at hunlocked hobserver hobservers
  unfold ObservedRecord.unregisterAppStateObserver
  cases happ : record.appStateObserver with
  | none =>
      simp only [happ, Option.isSome_none] at hpointer
      have hnot : ¬ (manager.appStateObserver = true ∧ platform.unregistersAppState = true) := by
        simp [hpointer]
      rw [if_neg hnot] at hunlocked hobserver hobservers
      have hnull : (manager.unwatch platform).appStateObserver = false := by
        simpa [hpointer] using hobserver
      exact ⟨hunlocked.trans helements, by simp [hnull, happ], hobservers.trans hcount, hheld⟩
  | some observer =>
      have hmem := hheld observer happ
      simp only [happ, Option.isSome_some] at hpointer
      simp only [hpointer, true_and] at hunlocked hobserver hobservers
      cases hanswer : platform.unregistersAppState with
      | false =>
          simp only [hanswer, Bool.false_eq_true, if_false] at hunlocked hobserver hobservers
          exact ⟨by simp [hunlocked, helements], by simp [hobserver, happ, hpointer],
            by simp [hobservers, hcount], hheld⟩
      | true =>
          simp only [hanswer, if_true] at hunlocked hobserver hobservers
          refine ⟨by simp [hunlocked, helements], by simp [hobserver], ?_, ?_⟩
          · simp [hobservers, hcount, List.length_erase_of_mem hmem]
          · exact fun _ hnone => nomatch hnone

theorem tracks_add (hregisters : platform.registersAppState = true) (element : String)
    (htracks : manager.Tracks record) :
    (manager.add platform element).Tracks
      (record.step (.add element, platform.registersAppState)) := by
  obtain ⟨helements, hpointer, hcount, hheld⟩ := htracks
  unfold add
  simp only [ObservedRecord.step, ObservedRecord.add, helements]
  split
  next =>
    refine ⟨?_, rfl, ?_, ?_⟩
    · simp [registerLeaveWristSettingObserver, registerAppStateObserver,
        ObservedRecord.registerAppStateObserver, helements]
    · simp [registerLeaveWristSettingObserver, registerAppStateObserver,
        ObservedRecord.registerAppStateObserver, hregisters, hcount]
    · simp [ObservedRecord.registerAppStateObserver, hregisters]
  next => exact ⟨by simp [helements], hpointer, hcount, hheld⟩

theorem tracks_remove (element : String) (htracks : manager.Tracks record) :
    (manager.remove platform element).Tracks
      (record.step (.remove element, platform.unregistersAppState)) := by
  obtain ⟨helements, hpointer, hcount, hheld⟩ := htracks
  unfold remove
  simp only [ObservedRecord.step, ObservedRecord.remove, helements]
  split
  next => exact tracks_unwatch ⟨rfl, hpointer, hcount, hheld⟩
  next => exact ⟨rfl, hpointer, hcount, hheld⟩

theorem tracks_clear (htracks : manager.Tracks record) :
    (manager.clear platform).Tracks (record.step (.clear, platform.unregistersAppState)) :=
  tracks_unwatch ⟨rfl, htracks.pointer, htracks.count, htracks.held⟩

end Operations

section Runs

/-- The call of the record that an entry leads to, if it leads to one. -/
def recordCalls (manager : WatchAppLockManager) (entry : WatchPlatform × WatchEvent) :
    List (RecordCall × Bool) :=
  match entry.2 with
  | .unlockScreen bundleName isScreenLocked resultCode =>
      if isScreenLocked = false ∨ hasPin entry.1 = false then []
      else if resultCode = 0 then [(.add bundleName, entry.1.registersAppState)]
      else []
  | .wearStateChange isWearOn =>
      if isWearOn then [] else [(.clear, entry.1.unregistersAppState)]
  | .onScreenOffEnd => [(.clear, entry.1.unregistersAppState)]
  | .windowHidden bundleName =>
      if 0 < manager.appStateObservers then [(.remove bundleName, entry.1.unregistersAppState)]
      else []
  | .hwLeaveWrist value =>
      let changed := { manager with hwLeaveWrist := value }
      if 0 < changed.leaveWristObservers then
        if changed.isLeaveWrist entry.1 then [] else [(.clear, entry.1.unregistersAppState)]
      else []
  | .passwordScope _ => []

variable {manager : WatchAppLockManager} {record : ObservedRecord}
  {entry : WatchPlatform × WatchEvent}

theorem tracks_step (henabled : machine.enabled manager entry) (htracks : manager.Tracks record) :
    (manager.step entry).Tracks
      (ObservedRecord.machine.run record (manager.recordCalls entry)) := by
  obtain ⟨platform, event⟩ := entry
  obtain ⟨hregisters, -⟩ := henabled
  obtain ⟨helements, hpointer, hcount, hheld⟩ := htracks
  cases event with
  | unlockScreen bundleName isScreenLocked resultCode =>
      unfold recordCalls step unlockScreen
      dsimp only
      split
      next => exact ⟨helements, hpointer, hcount, hheld⟩
      next =>
        split
        next =>
          have hadded := tracks_add hregisters bundleName ⟨helements, hpointer, hcount, hheld⟩
          split
          next => exact ⟨hadded.elements, hadded.pointer, hadded.count, hadded.held⟩
          next => exact hadded
        next => exact ⟨helements, hpointer, hcount, hheld⟩
  | wearStateChange isWearOn =>
      unfold recordCalls step wearStateChange
      cases isWearOn with
      | true => exact ⟨helements, hpointer, hcount, hheld⟩
      | false =>
          have hcleared := @tracks_clear platform { manager with isWearOn := false } record
            ⟨helements, hpointer, hcount, hheld⟩
          exact ⟨hcleared.elements, hcleared.pointer, hcleared.count, hcleared.held⟩
  | onScreenOffEnd => exact tracks_clear ⟨helements, hpointer, hcount, hheld⟩
  | windowHidden bundleName =>
      unfold recordCalls step
      dsimp only
      split
      next => exact tracks_remove bundleName ⟨helements, hpointer, hcount, hheld⟩
      next => exact ⟨helements, hpointer, hcount, hheld⟩
  | hwLeaveWrist value =>
      unfold recordCalls step onChange
      dsimp only
      split
      next =>
        split
        next => exact ⟨helements, hpointer, hcount, hheld⟩
        next =>
          have hcleared := @tracks_clear platform { manager with hwLeaveWrist := value } record
            ⟨helements, hpointer, hcount, hheld⟩
          exact ⟨hcleared.elements, hcleared.pointer, hcleared.count, hcleared.held⟩
      next => exact ⟨helements, hpointer, hcount, hheld⟩
  | passwordScope value => exact ⟨helements, hpointer, hcount, hheld⟩

/-- An unregistration gets the answer of its entry; registrations succeed. -/
theorem recordCalls_succeed (henabled : machine.enabled manager entry)
    (hunregisters : entry.1.unregistersAppState = true) :
    ∀ call ∈ manager.recordCalls entry, call.2 = true := by
  obtain ⟨platform, event⟩ := entry
  have hregisters : platform.registersAppState = true := henabled.1
  have hanswer : platform.unregistersAppState = true := hunregisters
  cases event <;> grind [recordCalls]

/-- A run of the manager is a run of its record. -/
theorem exists_tracks_run (hwLeaveWrist passwordScope : String)
    {events : List (WatchPlatform × WatchEvent)}
    (hadmits : machine.Admits (start hwLeaveWrist passwordScope) events) :
    ∃ calls, (machine.run (start hwLeaveWrist passwordScope) events).Tracks
        (ObservedRecord.machine.run ObservedRecord.empty calls) ∧
      ((∀ entry ∈ events, entry.1.unregistersAppState = true) →
        ∀ call ∈ calls, call.2 = true) := by
  induction events using List.reverseRecOn with
  | nil =>
      refine ⟨[], ⟨rfl, rfl, rfl, fun observer hnone => ?_⟩, fun _ call hmem => ?_⟩
      · cases hnone
      · cases hmem
  | append_singleton past entry ih =>
      obtain ⟨hpast, henabled⟩ := (machine.steps_concat _ _ _ _).mp hadmits
      obtain ⟨calls, htracks, hsucceed⟩ := ih hpast
      rw [machine.run_concat]
      let before := machine.run (start hwLeaveWrist passwordScope) past
      refine ⟨calls ++ before.recordCalls entry, ?_, fun hall call hmem => ?_⟩
      · rw [ObservedRecord.machine.run_append]
        exact tracks_step henabled htracks
      · rw [List.forall_mem_append] at hall
        rcases List.mem_append.mp hmem with hbefore | hnew
        · exact hsucceed hall.1 call hbefore
        · have hentry := hall.2 entry (List.mem_singleton_self entry)
          exact recordCalls_succeed henabled hentry call hnew

/-- Where the application manager refuses nothing, it has one observer of the
manager exactly while the record has elements. -/
theorem appStateObservers_of_answers (hwLeaveWrist passwordScope : String)
    {events : List (WatchPlatform × WatchEvent)}
    (hadmits : machine.Admits (start hwLeaveWrist passwordScope) events)
    (hanswers : ∀ entry ∈ events, entry.1.unregistersAppState = true) :
    (machine.run (start hwLeaveWrist passwordScope) events).appStateObservers =
      if (machine.run (start hwLeaveWrist passwordScope) events).unlockedRecord = ∅ then 0
      else 1 := by
  obtain ⟨calls, htracks, hsucceed⟩ := exists_tracks_run hwLeaveWrist passwordScope hadmits
  have hsteps :
      ObservedRecord.machine.Steps ObservedRecord.Succeeds ObservedRecord.empty calls := by
    have hall := (ObservedRecord.machine.steps_iff_forall_mem (fun call => call.2 = true)
      ObservedRecord.empty calls).mpr (hsucceed hanswers)
    refine ObservedRecord.machine.steps_mono (fun record call hcall => ?_) hall
    exact fun _ => hcall
  obtain ⟨haccounted, hwatches⟩ :=
    ObservedRecord.neitherLeakedNorDoubled_of_succeeds hsteps calls List.prefix_rfl
  have hlength := haccounted.1
  have hexactly := hwatches hsteps
  rw [htracks.count, htracks.elements]
  split
  next hempty =>
    have hnot := mt hexactly.mp (not_not.mpr hempty)
    omega
  next helements => exact hexactly.mpr helements

end Runs

end WatchAppLockManager

end Screenlock
