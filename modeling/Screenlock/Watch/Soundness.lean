import Screenlock.Foundation.History
import Screenlock.Watch.AppLock

/-! # What an open application lock stands for

If the lock of a bundle is open, the bundle has authenticated since anything
that should close it, or a bundle has on the wrist. The first half holds in every
run. The second is lost where leave-wrist is switched off while the record is
empty, because nothing listens to the setting then.
-/

namespace Screenlock.WatchAppLockManager

open Foundation

section Events

variable (manager : WatchAppLockManager) (entry : WatchPlatform × WatchEvent)

/-- The bundle completes a successful widget authentication. -/
def Authenticates (bundleName : String) (entry : WatchPlatform × WatchEvent) : Prop :=
  entry.2 = .unlockScreen bundleName true 0 ∧ hasPin entry.1 = true

/-- Some bundle does, while the watch is worn. -/
def AuthenticatesOnWrist : Prop :=
  manager.isWearOn = true ∧ ∃ bundleName, Authenticates bundleName entry

/-- Leave-wrist is switched off. -/
def SwitchesOff : Prop :=
  manager.LeaveWristEnabled ∧ ∃ value, entry.2 = .hwLeaveWrist value ∧ value ≠ settingEnableValue

/-- What should close the lock of a bundle. -/
def ClosesBundle (bundleName : String) (manager : WatchAppLockManager)
    (entry : WatchPlatform × WatchEvent) : Prop :=
  entry.2 = .wearStateChange false ∨ entry.2 = .onScreenOffEnd ∨
    entry.2 = .windowHidden bundleName ∨ manager.SwitchesOff entry

/-- What should close a lock opened on the wrist. -/
def ClosesWrist : Prop :=
  entry.2 = .wearStateChange false ∨ manager.SwitchesOff entry

/-- Leave-wrist is not switched off over an unlocking on the wrist to which no
observer listens. -/
def SwitchesOffHeard : Prop :=
  manager.SwitchesOff entry → manager.isWristUnlock = false ∨ 0 < manager.leaveWristObservers

end Events

/-- Every open lock has its authentication: whoever finds the lock open for a
bundle, with a PIN enrolled and the device not protected as a whole. -/
def Sound (first : WatchAppLockManager) (past : List (WatchPlatform × WatchEvent)) : Prop :=
  ∀ platform bundleName isOHScreenLocked, bundleName ≠ "" → hasPin platform = true →
    (machine.run first past).isScreenLocked platform bundleName isOHScreenLocked = false →
    ¬ ((machine.run first past).LeaveWristEnabled ∧ (machine.run first past).DeviceScopeEnabled) →
    machine.Since (fun _ => Authenticates bundleName) (ClosesBundle bundleName) first past ∨
      ((machine.run first past).LeaveWristEnabled ∧
        machine.Since AuthenticatesOnWrist ClosesWrist first past)

/-- A record that is not empty is listened to. -/
def Observed (manager : WatchAppLockManager) : Prop :=
  manager.unlockedRecord ≠ ∅ → 0 < manager.appStateObservers ∧ 0 < manager.leaveWristObservers

section Operations

variable {platform : WatchPlatform} {manager : WatchAppLockManager} {bundleName : String}

/-- A failed query never finds the setting enabled. -/
theorem leaveWristEnabled_of_isLeaveWrist (hread : manager.isLeaveWrist platform = true) :
    manager.LeaveWristEnabled := by
  unfold isLeaveWrist getSettingsValue at hread
  split at hread
  · exact of_decide_eq_true hread
  · cases hread

theorem deviceScopeEnabled_of_isDeviceScope (hread : manager.isDeviceScope platform = true) :
    manager.DeviceScopeEnabled := by
  unfold isDeviceScope getSettingsValue at hread
  split at hread
  · exact of_decide_eq_true hread
  · cases hread

/-- The lock is open only by one of the two memories, unless the device is
protected as a whole. -/
theorem isFinishUnlock_of_open {isOHScreenLocked : Bool} (hpin : hasPin platform = true)
    (hopen : manager.isScreenLocked platform bundleName isOHScreenLocked = false)
    (happ : ¬ (manager.LeaveWristEnabled ∧ manager.DeviceScopeEnabled)) :
    manager.isFinishUnlock bundleName = true := by
  unfold isScreenLocked at hopen
  rw [if_pos hpin] at hopen
  split at hopen
  · next hleave =>
      split at hopen
      · next hscope =>
          exact absurd ⟨leaveWristEnabled_of_isLeaveWrist hleave,
            deviceScopeEnabled_of_isDeviceScope hscope⟩ happ
      · simpa using hopen
  · simpa using hopen

/-- Beside the observers nothing changes. -/
structure OnlyObservers (before after : WatchAppLockManager) : Prop where
  isWearOn : after.isWearOn = before.isWearOn
  isWristUnlock : after.isWristUnlock = before.isWristUnlock
  unlockedRecord : after.unlockedRecord = before.unlockedRecord
  hwLeaveWrist : after.hwLeaveWrist = before.hwLeaveWrist

theorem unwatch_onlyObservers (platform : WatchPlatform) (manager : WatchAppLockManager) :
    OnlyObservers manager (manager.unwatch platform) := by
  unfold unwatch unregisterAppStateObserver
  split <;> unfold unregisterLeaveWristSettingObserver <;> split <;> exact ⟨rfl, rfl, rfl, rfl⟩

theorem clear_onlyObservers (platform : WatchPlatform) (manager : WatchAppLockManager) :
    OnlyObservers { manager with unlockedRecord := ∅ } (manager.clear platform) :=
  unwatch_onlyObservers platform { manager with unlockedRecord := ∅ }

theorem remove_onlyObservers (platform : WatchPlatform) (manager : WatchAppLockManager)
    (element : String) :
    OnlyObservers { manager with unlockedRecord := manager.unlockedRecord.erase element }
      (manager.remove platform element) := by
  unfold remove
  dsimp only
  split
  · exact unwatch_onlyObservers platform _
  · exact ⟨rfl, rfl, rfl, rfl⟩

theorem add_onlyObservers (platform : WatchPlatform) (manager : WatchAppLockManager)
    (element : String) :
    OnlyObservers { manager with unlockedRecord := insert element manager.unlockedRecord }
      (manager.add platform element) := by
  unfold add
  dsimp only
  split <;> exact ⟨rfl, rfl, rfl, rfl⟩

theorem observed_of_empty (hempty : manager.unlockedRecord = ∅) : manager.Observed :=
  fun hsome => absurd hempty hsome

theorem Observed.add (hregisters : platform.registersAppState = true ∧
      platform.registersLeaveWrist = true) (hobserved : manager.Observed) (element : String) :
    (manager.add platform element).Observed := by
  intro _
  unfold WatchAppLockManager.add
  dsimp only
  split
  · simp only [registerLeaveWristSettingObserver, registerAppStateObserver, hregisters.1,
      hregisters.2, if_true]
    exact ⟨Nat.succ_pos _, Nat.succ_pos _⟩
  · next hsome => exact hobserved hsome

theorem Observed.remove (hobserved : manager.Observed) (element : String) :
    (manager.remove platform element).Observed := by
  unfold WatchAppLockManager.remove
  dsimp only
  split
  · next hempty =>
      refine observed_of_empty ?_
      rw [(unwatch_onlyObservers platform _).unlockedRecord]
      exact hempty
  · intro hleft
    refine hobserved fun hempty => hleft ?_
    dsimp only
    rw [hempty, Finset.erase_empty]

end Operations

section Step

variable {platform : WatchPlatform} {manager : WatchAppLockManager}

/-- The two outcomes of `unlockScreen`. -/
theorem unlockScreen_cases (platform : WatchPlatform) (manager : WatchAppLockManager)
    (bundleName : String) (isScreenLocked : Bool) (resultCode : Int) :
    (manager.unlockScreen platform bundleName isScreenLocked resultCode).2 = manager ∨
      (Authenticates bundleName (platform, .unlockScreen bundleName isScreenLocked resultCode) ∧
        ((manager.unlockScreen platform bundleName isScreenLocked resultCode).2 =
            manager.add platform bundleName ∨
          (manager.LeaveWristEnabled ∧ manager.isWearOn = true ∧
            (manager.unlockScreen platform bundleName isScreenLocked resultCode).2 =
              { manager.add platform bundleName with isWristUnlock := true }))) := by
  have hadd := add_onlyObservers platform manager bundleName
  unfold unlockScreen
  split
  · exact Or.inl rfl
  · next hneeded =>
      obtain ⟨hlocked, hpin⟩ := not_or.mp hneeded
      split
      · next hresult =>
          rw [Bool.not_eq_false] at hlocked hpin
          subst hlocked hresult
          refine Or.inr ⟨⟨rfl, hpin⟩, ?_⟩
          dsimp only
          split
          · next hwrist =>
              refine Or.inr ⟨?_, hadd.isWearOn.symm.trans hwrist.2, rfl⟩
              exact hadd.hwLeaveWrist.symm.trans (leaveWristEnabled_of_isLeaveWrist hwrist.1)
          · exact Or.inl rfl
      · exact Or.inl rfl

/-- A change of the setting is not heard, leaves it on, or locks everything. -/
theorem hwLeaveWrist_cases (platform : WatchPlatform) (manager : WatchAppLockManager)
    (value : String) :
    (manager.step (platform, .hwLeaveWrist value) = { manager with hwLeaveWrist := value } ∧
        (¬ 0 < manager.leaveWristObservers ∨ value = settingEnableValue)) ∨
      manager.step (platform, .hwLeaveWrist value) =
        { { manager with hwLeaveWrist := value }.clear platform with isWristUnlock := false } := by
  simp only [step]
  split
  · unfold onChange
    split
    · next hleave => exact Or.inl ⟨rfl, Or.inr (leaveWristEnabled_of_isLeaveWrist hleave)⟩
    · exact Or.inr rfl
  · next hunheard => exact Or.inl ⟨rfl, Or.inl hunheard⟩

theorem observed_step (entry : WatchPlatform × WatchEvent)
    (henabled : machine.enabled manager entry)
    (hobserved : manager.Observed) : (manager.step entry).Observed := by
  obtain ⟨platform, event⟩ := entry
  have hcleared : ∀ current : WatchAppLockManager, (current.clear platform).Observed :=
    fun current => observed_of_empty (clear_onlyObservers platform current).unlockedRecord
  cases event with
  | unlockScreen bundleName isScreenLocked resultCode =>
      have hadd := hobserved.add henabled bundleName
      simp only [step]
      rcases unlockScreen_cases platform manager bundleName isScreenLocked resultCode with
        heq | ⟨_, heq | ⟨_, _, heq⟩⟩
      · rwa [heq]
      · rwa [heq]
      · rw [heq]
        exact hadd
  | wearStateChange isWearOn =>
      cases isWearOn with
      | true => exact hobserved
      | false => exact hcleared { manager with isWearOn := false }
  | onScreenOffEnd => exact hcleared manager
  | windowHidden bundleName =>
      simp only [step]
      split
      · exact hobserved.remove bundleName
      · exact hobserved
  | hwLeaveWrist value =>
      rcases hwLeaveWrist_cases platform manager value with ⟨heq, _⟩ | heq
      · rw [heq]
        exact hobserved
      · rw [heq]
        exact hcleared { manager with hwLeaveWrist := value }
  | passwordScope value => exact hobserved

/-- A bundle is on record because it has just authenticated, or because it was
and nothing has closed it. -/
theorem record_step {bundleName : String} (entry : WatchPlatform × WatchEvent)
    (hobserved : manager.Observed) (hmem : bundleName ∈ (manager.step entry).unlockedRecord) :
    Authenticates bundleName entry ∨
      (bundleName ∈ manager.unlockedRecord ∧ ¬ ClosesBundle bundleName manager entry) := by
  obtain ⟨platform, event⟩ := entry
  have hcleared : ∀ current : WatchAppLockManager,
      ¬ bundleName ∈ (current.clear platform).unlockedRecord := by
    intro current hleft
    rw [(clear_onlyObservers platform current).unlockedRecord] at hleft
    exact absurd hleft (Finset.notMem_empty _)
  cases event with
  | unlockScreen unlocker isScreenLocked resultCode =>
      have hkept : ¬ ClosesBundle bundleName manager
          (platform, .unlockScreen unlocker isScreenLocked resultCode) := by
        simp [ClosesBundle, SwitchesOff]
      have hadded : (manager.add platform unlocker).unlockedRecord =
          insert unlocker manager.unlockedRecord :=
        (add_onlyObservers platform manager unlocker).unlockedRecord
      simp only [step] at hmem
      rcases unlockScreen_cases platform manager unlocker isScreenLocked resultCode with
        heq | ⟨hauth, hafter⟩
      · rw [heq] at hmem
        exact Or.inr ⟨hmem, hkept⟩
      · have hinsert : bundleName ∈ insert unlocker manager.unlockedRecord := by
          rw [← hadded]
          rcases hafter with heq | ⟨_, _, heq⟩
          · rwa [heq] at hmem
          · rwa [heq] at hmem
        rcases Finset.mem_insert.mp hinsert with rfl | hold
        · exact Or.inl hauth
        · exact Or.inr ⟨hold, hkept⟩
  | wearStateChange isWearOn =>
      cases isWearOn with
      | true => exact Or.inr ⟨hmem, by simp [ClosesBundle, SwitchesOff]⟩
      | false => exact absurd hmem (hcleared { manager with isWearOn := false })
  | onScreenOffEnd => exact absurd hmem (hcleared manager)
  | windowHidden hidden =>
      simp only [step] at hmem
      split at hmem
      · rw [onWindowHidden, (remove_onlyObservers platform manager hidden).unlockedRecord,
          Finset.mem_erase] at hmem
        refine Or.inr ⟨hmem.2, ?_⟩
        simpa [ClosesBundle, SwitchesOff] using Ne.symm hmem.1
      · next hunheard =>
          -- while a bundle is on record, hidden windows are reported
          exact absurd (hobserved (Finset.ne_empty_of_mem hmem)).1 hunheard
  | hwLeaveWrist value =>
      rcases hwLeaveWrist_cases platform manager value with ⟨heq, hunheard | hon⟩ | heq
      · -- and so is the setting
        rw [heq] at hmem
        exact absurd (hobserved (Finset.ne_empty_of_mem hmem)).2 hunheard
      · rw [heq] at hmem
        exact Or.inr ⟨hmem, by simp [ClosesBundle, SwitchesOff, hon]⟩
      · rw [heq] at hmem
        exact absurd hmem (hcleared { manager with hwLeaveWrist := value })
  | passwordScope value => exact Or.inr ⟨hmem, by simp [ClosesBundle, SwitchesOff]⟩

/-- The lock is open on the wrist because a bundle has just authenticated there,
or because it was and nothing has closed it. -/
theorem wrist_step (entry : WatchPlatform × WatchEvent) (hheard : manager.SwitchesOffHeard entry)
    (hopen : (manager.step entry).isWristUnlock = true) :
    (manager.AuthenticatesOnWrist entry ∧ manager.LeaveWristEnabled ∧
        ¬ manager.SwitchesOff entry) ∨
      (manager.isWristUnlock = true ∧ ¬ manager.ClosesWrist entry) := by
  obtain ⟨platform, event⟩ := entry
  cases event with
  | unlockScreen unlocker isScreenLocked resultCode =>
      have hkept : ¬ manager.SwitchesOff
          (platform, .unlockScreen unlocker isScreenLocked resultCode) := by
        simp [SwitchesOff]
      have hadded := (add_onlyObservers platform manager unlocker).isWristUnlock
      simp only [step] at hopen
      rcases unlockScreen_cases platform manager unlocker isScreenLocked resultCode with
        heq | ⟨hauth, heq | ⟨hleave, hworn, heq⟩⟩
      · rw [heq] at hopen
        exact Or.inr ⟨hopen, by simp [ClosesWrist, SwitchesOff]⟩
      · rw [heq, hadded] at hopen
        exact Or.inr ⟨hopen, by simp [ClosesWrist, SwitchesOff]⟩
      · exact Or.inl ⟨⟨hworn, unlocker, hauth⟩, hleave, hkept⟩
  | wearStateChange isWearOn =>
      cases isWearOn with
      | true => exact Or.inr ⟨hopen, by simp [ClosesWrist, SwitchesOff]⟩
      | false => cases hopen
  | onScreenOffEnd =>
      -- the record is emptied, the wrist stays open
      simp only [step, onScreenOffEnd] at hopen
      rw [(clear_onlyObservers platform manager).isWristUnlock] at hopen
      exact Or.inr ⟨hopen, by simp [ClosesWrist, SwitchesOff]⟩
  | windowHidden hidden =>
      have hsame : (manager.step (platform, .windowHidden hidden)).isWristUnlock =
          manager.isWristUnlock := by
        simp only [step]
        split
        · exact (remove_onlyObservers platform manager hidden).isWristUnlock
        · rfl
      rw [hsame] at hopen
      exact Or.inr ⟨hopen, by simp [ClosesWrist, SwitchesOff]⟩
  | hwLeaveWrist value =>
      rcases hwLeaveWrist_cases platform manager value with ⟨heq, hkept⟩ | heq
      · rw [heq] at hopen
        refine Or.inr ⟨hopen, ?_⟩
        rintro (hoff | hoff)
        · cases hoff
        · -- a switch-off that the wrist has missed is one the guard forbids
          have hvalue : value ≠ settingEnableValue := by
            obtain ⟨_, _, ⟨rfl⟩, hvalue⟩ := hoff
            exact hvalue
          rcases hheard hoff with hclosed | hobserver
          · rw [hclosed] at hopen
            cases hopen
          · exact hkept.elim (fun hunheard => hunheard hobserver) hvalue
      · rw [heq] at hopen
        cases hopen
  | passwordScope value => exact Or.inr ⟨hopen, by simp [ClosesWrist, SwitchesOff]⟩

theorem leaveWristEnabled_step (entry : WatchPlatform × WatchEvent)
    (henabled : manager.LeaveWristEnabled) (hkept : ¬ manager.SwitchesOff entry) :
    (manager.step entry).LeaveWristEnabled := by
  obtain ⟨platform, event⟩ := entry
  have hcleared : ∀ current : WatchAppLockManager, current.LeaveWristEnabled →
      (current.clear platform).LeaveWristEnabled := by
    intro current hcurrent
    exact (clear_onlyObservers platform current).hwLeaveWrist.trans hcurrent
  cases event with
  | unlockScreen unlocker isScreenLocked resultCode =>
      have hadded : (manager.add platform unlocker).LeaveWristEnabled :=
        (add_onlyObservers platform manager unlocker).hwLeaveWrist.trans henabled
      simp only [step]
      rcases unlockScreen_cases platform manager unlocker isScreenLocked resultCode with
        heq | ⟨_, heq | ⟨_, _, heq⟩⟩
      · rwa [heq]
      · rwa [heq]
      · rw [heq]
        exact hadded
  | wearStateChange isWearOn =>
      cases isWearOn with
      | true => exact henabled
      | false => exact hcleared { manager with isWearOn := false } henabled
  | onScreenOffEnd => exact hcleared manager henabled
  | windowHidden hidden =>
      simp only [step]
      split
      · exact (remove_onlyObservers platform manager hidden).hwLeaveWrist.trans henabled
      · exact henabled
  | hwLeaveWrist value =>
      have hon : value = settingEnableValue := by
        by_contra hvalue
        exact hkept ⟨henabled, value, rfl, hvalue⟩
      rcases hwLeaveWrist_cases platform manager value with ⟨heq, _⟩ | heq
      · rw [heq]
        exact hon
      · rw [heq]
        exact hcleared { manager with hwLeaveWrist := value } hon
  | passwordScope value => exact henabled

end Step

section Runs

variable {first : WatchAppLockManager} {past events : List (WatchPlatform × WatchEvent)}
  {entry : WatchPlatform × WatchEvent}

/-- Both memories hold only what the past of the run justifies. -/
structure Justified (first : WatchAppLockManager) (past : List (WatchPlatform × WatchEvent))
    (manager : WatchAppLockManager) : Prop where
  observed : manager.Observed
  record : ∀ bundleName ∈ manager.unlockedRecord,
    machine.Since (fun _ => Authenticates bundleName) (ClosesBundle bundleName) first past
  wrist : manager.isWristUnlock = true → manager.LeaveWristEnabled ∧
    machine.Since AuthenticatesOnWrist ClosesWrist first past

theorem Justified.step (hjustified : Justified first past (machine.run first past))
    (henabled : machine.enabled (machine.run first past) entry)
    (hheard : (machine.run first past).SwitchesOffHeard entry) :
    Justified first (past ++ [entry]) (machine.step (machine.run first past) entry) where
  observed := observed_step entry henabled hjustified.observed
  record bundleName hmem := by
    refine (Machine.since_concat entry).mpr ?_
    refine (record_step entry hjustified.observed hmem).imp_right fun hkept => ?_
    exact ⟨hjustified.record bundleName hkept.1, hkept.2⟩
  wrist hopen := by
    rcases wrist_step entry hheard hopen with ⟨hauth, henabled, hkept⟩ | ⟨hold, hkept⟩
    · exact ⟨leaveWristEnabled_step entry henabled hkept,
        (Machine.since_concat entry).mpr (Or.inl hauth)⟩
    · obtain ⟨henabled, hsince⟩ := hjustified.wrist hold
      exact ⟨leaveWristEnabled_step entry henabled fun hoff => hkept (Or.inr hoff),
        (Machine.since_concat entry).mpr (Or.inr ⟨hsince, hkept⟩)⟩

theorem Justified.sound (hjustified : Justified first past (machine.run first past)) :
    Sound first past := by
  intro platform bundleName isOHScreenLocked _ hpin hopen happ
  have hfinish := isFinishUnlock_of_open hpin hopen happ
  rcases Bool.or_eq_true_iff.mp hfinish with hwrist | hrecord
  · exact Or.inr (hjustified.wrist hwrist)
  · exact Or.inl (hjustified.record bundleName (of_decide_eq_true hrecord))

theorem justified_start (hwLeaveWrist passwordScope : String) :
    Justified (start hwLeaveWrist passwordScope) [] (start hwLeaveWrist passwordScope) where
  observed := observed_of_empty rfl
  record bundleName hmem := absurd hmem (Finset.notMem_empty _)
  wrist hopen := by cases hopen

/-- Leave-wrist is off, and the lock that was opened on the wrist is still open
for every bundle. -/
theorem not_sound_unheard (hunheard : ¬ (machine.run first past).SwitchesOffHeard entry) :
    ¬ Sound first (past ++ [entry]) := by
  intro hsound
  obtain ⟨hoff, hwrist, hobservers⟩ : (machine.run first past).SwitchesOff entry ∧
      (machine.run first past).isWristUnlock = true ∧
      ¬ 0 < (machine.run first past).leaveWristObservers := by
    simpa [SwitchesOffHeard] using hunheard
  obtain ⟨platform, event⟩ := entry
  have hclosed := hoff
  obtain ⟨_, value, heq, hvalue⟩ := hoff
  obtain rfl : event = .hwLeaveWrist value := heq
  have hafter : machine.run first (past ++ [(platform, .hwLeaveWrist value)]) =
      { machine.run first past with hwLeaveWrist := value } := by
    rw [machine.run_concat]
    exact if_neg hobservers
  have hopen : (machine.run first (past ++ [(platform, .hwLeaveWrist value)])).isScreenLocked
      .willing "bundle" false = false := by
    rw [hafter]
    simp [isScreenLocked, isFinishUnlock, hwrist, isLeaveWrist, isDeviceScope]
  have hdisabled : ¬ (machine.run first
      (past ++ [(platform, .hwLeaveWrist value)])).LeaveWristEnabled := by
    rw [hafter]
    exact hvalue
  rcases hsound .willing "bundle" false (by decide) (by decide) hopen
    (fun hboth => hdisabled hboth.1) with hrecord | hwristed
  · rcases (Machine.since_concat _).mp hrecord with hauth | ⟨_, hkept⟩
    · cases hauth.1
    · exact hkept (Or.inr (Or.inr (Or.inr hclosed)))
  · exact hdisabled hwristed.1

/-- Every open lock has its authentication at every point of a run exactly if
leave-wrist is never switched off unheard over an unlocking on the wrist. -/
theorem sound_throughout_iff {hwLeaveWrist passwordScope : String}
    (hadmits : machine.Admits (start hwLeaveWrist passwordScope) events) :
    (∀ past, past <+: events → Sound (start hwLeaveWrist passwordScope) past) ↔
      machine.Steps SwitchesOffHeard (start hwLeaveWrist passwordScope) events := by
  constructor
  · intro hsound
    refine (machine.steps_iff_prefixes _ _ _).mpr fun past entry hpast => ?_
    by_contra hunheard
    exact not_sound_unheard hunheard (hsound _ hpast)
  · rintro hheard past ⟨rest, rfl⟩
    have hsteps := machine.steps_and hadmits hheard
    obtain ⟨hpast, _⟩ := (machine.steps_append _ _ _ _).mp hsteps
    have hjustified := machine.steps_invariant_past (justified_start hwLeaveWrist passwordScope)
      (fun past entry hguard hjustified => hjustified.step hguard.1 hguard.2) hpast
    exact hjustified.sound

/-- A bundle authenticates on the wrist, and leave-wrist is switched off while
the bundle is on record. -/
theorem heard_sound_iff :
    (∀ past, past <+: [(WatchPlatform.willing, WatchEvent.wearStateChange true),
        (.willing, .unlockScreen "wallet" true 0), (.willing, .hwLeaveWrist "0")] →
      Sound (start "1" "0") past) ↔
      machine.Steps SwitchesOffHeard (start "1" "0")
        [(WatchPlatform.willing, WatchEvent.wearStateChange true),
          (.willing, .unlockScreen "wallet" true 0), (.willing, .hwLeaveWrist "0")] :=
  sound_throughout_iff (by decide)

/-- The display goes off in between: the record is empty, nothing listens to the
setting, and the lock stays open for every bundle. -/
theorem unsound_after_screenOff :
    machine.Admits (start "1" "0")
        [(.willing, .wearStateChange true), (.willing, .unlockScreen "wallet" true 0),
          (.willing, .onScreenOffEnd), (.willing, .hwLeaveWrist "0")] ∧
      ¬ Sound (start "1" "0")
        [(.willing, .wearStateChange true), (.willing, .unlockScreen "wallet" true 0),
          (.willing, .onScreenOffEnd), (.willing, .hwLeaveWrist "0")] := by
  refine ⟨by decide, ?_⟩
  refine @not_sound_unheard _ [(.willing, .wearStateChange true),
    (.willing, .unlockScreen "wallet" true 0), (.willing, .onScreenOffEnd)] _ fun hheard => ?_
  have hlost := hheard ⟨by decide, "0", rfl, by decide⟩
  revert hlost
  decide

end Runs

end Screenlock.WatchAppLockManager
