import Screenlock.Service.Calls
import Screenlock.Watch.AppLock

/-! # Unlocking on a watch

The build with the application lock. A watch has two locks: the one of the
device, with its queue of listeners, and the one of an application, which
answers at once. `UnlockWatch` tries the lock that is closed and does not look
at the answer of either.
-/

namespace Screenlock

/-- What the watch build asks beside the rest during one entry of a caller. -/
structure WatchEnvironment where
  platform : WatchPlatform
  /-- `GetBundleNameByUid` for the caller, empty where it finds none. -/
  bundleName : String
  /-- Bundles of `GetPaymentServices`; `none` when it fails. -/
  paymentServices : Option (List String)
  /-- What `WaitAuthFinish` returns. -/
  authResult : Int

/-- `IsPaymentApp`; if the services are not known, every bundle is taken for one. -/
def WatchEnvironment.isPaymentApp (watch : WatchEnvironment) : Bool :=
  if watch.bundleName = "" then false
  else match watch.paymentServices with
    | none => true
    | some bundleNames => bundleNames.contains watch.bundleName

/-- The system ability and the application lock beside it. -/
structure WatchScreenLock where
  ability : ScreenLockSystemAbility
  appLock : WatchAppLockManager

namespace WatchScreenLock

section Calls

variable (env : Environment) (caller : Caller) (watch : WatchEnvironment)
  (service : WatchScreenLock)

/-- `IsScreenLocked`; for a payment application the application lock decides. -/
def isScreenLocked : Bool :=
  let isScreenLocked := service.ability.isScreenLocked env caller
  if watch.isPaymentApp then
    service.appLock.isScreenLocked watch.platform watch.bundleName isScreenLocked
  else isScreenLocked

/-- `WatchAppLockManager::unlockScreen` for the caller. -/
def unlockAppLock (isScreenLocked : Bool) : ScreenLockError × WatchScreenLock :=
  (service.appLock.unlockScreen watch.platform watch.bundleName isScreenLocked
    watch.authResult).map id fun appLock => { service with appLock := appLock }

def queueUnlockListener (listener : ScreenLockCallback) : WatchScreenLock :=
  { service with ability := service.ability.queueUnlockListener env caller listener }

/-- `UnlockInner`, and `UnlockScreen`, which only adds tracing. -/
def unlockScreen (listener : ScreenLockCallback) : ScreenLockError × WatchScreenLock :=
  if caller.isNativeAccess = false ∧ env.isAppInForeground caller = false ∧
      caller.checkPermission accessScreenLock = false then (.notFocusApp, service)
  else
    let userId := env.userIdFromCallingUid caller
    let isScreenLocked := (service.ability.isScreenlockedMap[userId]?).getD true
    if isScreenLocked = false ∧ watch.isPaymentApp = true then
      let (watchUnlockResult, unlocked) :=
        service.unlockAppLock watch (service.isScreenLocked env caller watch)
      if watchUnlockResult ≠ .ok then (watchUnlockResult, unlocked)
      else (.ok, unlocked.queueUnlockListener env caller listener)
    else (.ok, service.queueUnlockListener env caller listener)

def isLockedWatch : Except ScreenLockError Bool :=
  if caller.tokenType = .hap ∧ caller.systemApp = false then .error .notSystemApp
  else
    let isScreenLocked := service.isScreenLocked env caller watch
    .ok (isScreenLocked ||
      service.appLock.isScreenLocked watch.platform watch.bundleName isScreenLocked)

def unlockWatch (listener : ScreenLockCallback) : ScreenLockError × WatchScreenLock :=
  if caller.tokenType = .hap ∧ caller.systemApp = false then (.notSystemApp, service)
  else if service.isScreenLocked env caller watch then
    -- the code of `UnlockScreen` is not read
    (.ok, (service.unlockScreen env caller watch listener).2)
  else
    let isAppLocked :=
      service.appLock.isScreenLocked watch.platform watch.bundleName false
    -- neither is this one, and the listener goes nowhere
    (.ok, (service.unlockAppLock watch isAppLocked).2)

end Calls

section Properties

variable (env : Environment) (caller : Caller) (watch : WatchEnvironment)
  (listener : ScreenLockCallback) (service : WatchScreenLock)

/-- The listener is queued in `unlockVecListeners_`. -/
def Waits : Prop := listener ∈ service.ability.waiting.unlockVecListeners.map Prod.snd

/-- The listener was called back on the way from one state to the other. -/
def CalledBack (after : WatchScreenLock) : Prop :=
  ∃ called ∈ after.ability.waiting.unlockCalled,
    called ∉ service.ability.waiting.unlockCalled ∧ called.completion.entry.1 = listener

/-- The answer of the request behind `UnlockWatch`, if it makes one. -/
def underlyingResult : Option ScreenLockError :=
  if caller.tokenType = .hap ∧ caller.systemApp = false then none
  else if service.isScreenLocked env caller watch then
    some (service.unlockScreen env caller watch listener).1
  else
    some (service.unlockAppLock watch
      (service.appLock.isScreenLocked watch.platform watch.bundleName false)).1

/-- A success leaves the listener queued or called back, and a refusal behind
the call is returned. -/
def KeepsListener : Prop :=
  let (result, after) := service.unlockWatch env caller watch listener
  (result = .ok → after.Waits listener ∨ service.CalledBack listener after) ∧
    ∀ code, service.underlyingResult env caller watch listener = some code → code ≠ .ok →
      result = code

/-- The caller may ask for the device to be unlocked. -/
def MayUnlock : Prop :=
  caller.isNativeAccess = true ∨ env.isAppInForeground caller = true ∨
    caller.checkPermission accessScreenLock = true

/-- The device of the caller is unlocked, and the caller pays: its own lock has
to be opened first. -/
def AuthenticatesFirst : Prop :=
  (service.ability.isScreenlockedMap[env.userIdFromCallingUid caller]?).getD true = false ∧
    watch.isPaymentApp = true

end Properties

section Locks

variable {watch : WatchEnvironment} {service : WatchScreenLock} {isScreenLocked : Bool}

theorem unlockAppLock_eq_ok_iff :
    (service.unlockAppLock watch isScreenLocked).1 = .ok ↔
      isScreenLocked = true ∧ WatchAppLockManager.hasPin watch.platform = true ∧
        watch.authResult = 0 := by
  change (service.appLock.unlockScreen _ _ _ _).1 = _ ↔ _
  unfold WatchAppLockManager.unlockScreen
  split
  next hrefused =>
    refine iff_of_false (by simp) ?_
    rintro ⟨hlocked, hpin, -⟩
    simp [hlocked, hpin] at hrefused
  next hopen =>
    simp only [not_or, Bool.not_eq_false] at hopen
    split
    next hauth => exact iff_of_true rfl ⟨hopen.1, hopen.2, hauth⟩
    next hauth => exact iff_of_false (by simp) fun hall => hauth hall.2.2

/-- Without a PIN no application is locked. -/
theorem hasPin_of_appLocked {bundleName : String}
    (hlocked : service.appLock.isScreenLocked watch.platform bundleName isScreenLocked = true) :
    WatchAppLockManager.hasPin watch.platform = true := by
  unfold WatchAppLockManager.isScreenLocked at hlocked
  split at hlocked
  next hpin => exact hpin
  next => cases hlocked

variable {env : Environment} {caller : Caller} {listener : ScreenLockCallback}

theorem waits_queueUnlockListener :
    (service.queueUnlockListener env caller listener).Waits listener := by
  simp [Waits, queueUnlockListener, ScreenLockSystemAbility.queueUnlockListener,
    ScreenLockSystemAbility.send, WaitingListeners.pushUnlockListener]

/-- A request to unlock the device ends in one of three ways: refused at the
door, refused by the lock of the application, or queued. -/
theorem unlockScreen_cases (env : Environment) (caller : Caller) (watch : WatchEnvironment)
    (listener : ScreenLockCallback) (service : WatchScreenLock) :
    (¬ MayUnlock env caller ∧
      service.unlockScreen env caller watch listener = (.notFocusApp, service)) ∨
    (MayUnlock env caller ∧ AuthenticatesFirst env caller watch service ∧
      (service.unlockAppLock watch (service.isScreenLocked env caller watch)).1 ≠ .ok ∧
      service.unlockScreen env caller watch listener =
        service.unlockAppLock watch (service.isScreenLocked env caller watch)) ∨
    (MayUnlock env caller ∧
      (AuthenticatesFirst env caller watch service →
        (service.unlockAppLock watch (service.isScreenLocked env caller watch)).1 = .ok) ∧
      ∃ before, (before = service ∨
          before = (service.unlockAppLock watch (service.isScreenLocked env caller watch)).2) ∧
        service.unlockScreen env caller watch listener =
          (.ok, before.queueUnlockListener env caller listener)) := by
  unfold unlockScreen
  split
  next hrefused =>
    refine Or.inl ⟨?_, rfl⟩
    simp [MayUnlock, hrefused]
  next hdoor =>
    have hmay : MayUnlock env caller := by
      unfold MayUnlock
      grind
    dsimp only
    split
    next hfirst =>
      split
      next hrefused => exact Or.inr (Or.inl ⟨hmay, hfirst, hrefused, rfl⟩)
      next haccepted =>
        have hok := not_not.mp haccepted
        exact Or.inr (Or.inr ⟨hmay, fun _ => hok, _, Or.inr rfl, rfl⟩)
    next hfirst =>
      exact Or.inr (Or.inr ⟨hmay, fun hthen => absurd hthen hfirst, service, Or.inl rfl, rfl⟩)

/-- A payment application is locked only where there is a PIN, so only the
authentication decides. -/
theorem unlockAppLock_of_isScreenLocked (hfirst : AuthenticatesFirst env caller watch service)
    (hlocked : service.isScreenLocked env caller watch = true) :
    (service.unlockAppLock watch (service.isScreenLocked env caller watch)).1 = .ok ↔
      watch.authResult = 0 := by
  have hpin : WatchAppLockManager.hasPin watch.platform = true := by
    simp only [isScreenLocked, hfirst.2, if_true] at hlocked
    exact hasPin_of_appLocked hlocked
  rw [unlockAppLock_eq_ok_iff]
  simp [hlocked, hpin]

/-- An application that does not pay is served as in the other build. -/
theorem unlockScreen_of_not_payment (hpayment : watch.isPaymentApp = false) :
    service.unlockScreen env caller watch listener =
      (service.ability.unlockScreen env caller listener).map id
        fun ability => { service with ability := ability } := by
  unfold unlockScreen ScreenLockSystemAbility.unlockScreen
  split
  next => rfl
  next => simp [hpayment, queueUnlockListener]

end Locks

section UnlockWatch

variable {env : Environment} {caller : Caller} {watch : WatchEnvironment}
  {listener : ScreenLockCallback} {service : WatchScreenLock}

/-- What `UnlockWatch` changes: the application lock by one unlocking at most, and
the queue by one listener at most. -/
theorem unlockWatch_cases (env : Environment) (caller : Caller) (watch : WatchEnvironment)
    (listener : ScreenLockCallback) (service : WatchScreenLock) :
    ∃ before, (before = service ∨
        ∃ isScreenLocked, before = (service.unlockAppLock watch isScreenLocked).2) ∧
      ((service.unlockWatch env caller watch listener).2 = before ∨
        (service.unlockWatch env caller watch listener).2 =
          before.queueUnlockListener env caller listener) := by
  unfold unlockWatch
  split
  next => exact ⟨service, Or.inl rfl, Or.inl rfl⟩
  next =>
    split
    next =>
      rcases service.unlockScreen_cases env caller watch listener with ⟨-, hresult⟩ |
        ⟨-, -, -, hresult⟩ | ⟨-, -, before, hbefore, hresult⟩
      · rw [hresult]
        exact ⟨service, Or.inl rfl, Or.inl rfl⟩
      · rw [hresult]
        exact ⟨_, Or.inr ⟨_, rfl⟩, Or.inl rfl⟩
      · rw [hresult]
        exact ⟨before, hbefore.imp_right fun heq => ⟨_, heq⟩, Or.inr rfl⟩
    next => exact ⟨_, Or.inr ⟨_, rfl⟩, Or.inl rfl⟩

/-- The application lock takes a step of its own, or none. -/
theorem unlockWatch_appLock :
    (service.unlockWatch env caller watch listener).2.appLock = service.appLock ∨
      ∃ isScreenLocked, (service.unlockWatch env caller watch listener).2.appLock =
        WatchAppLockManager.machine.step service.appLock
          (watch.platform, .unlockScreen watch.bundleName isScreenLocked watch.authResult) := by
  obtain ⟨before, hbefore, hafter⟩ := service.unlockWatch_cases env caller watch listener
  have hkept : (service.unlockWatch env caller watch listener).2.appLock = before.appLock := by
    rcases hafter with hafter | hafter
    · rw [hafter]
    · rw [hafter]
      rfl
  rw [hkept]
  rcases hbefore with rfl | ⟨isScreenLocked, rfl⟩
  · exact Or.inl rfl
  · exact Or.inr ⟨isScreenLocked, rfl⟩

/-- `UnlockWatch` itself calls nobody back. -/
theorem unlockWatch_unlockCalled :
    (service.unlockWatch env caller watch listener).2.ability.waiting.unlockCalled =
      service.ability.waiting.unlockCalled := by
  obtain ⟨before, hbefore, hafter⟩ := service.unlockWatch_cases env caller watch listener
  have hkept : before.ability = service.ability := by
    rcases hbefore with rfl | ⟨isScreenLocked, rfl⟩ <;> rfl
  rw [← hkept]
  rcases hafter with hafter | hafter
  · rw [hafter]
  · rw [hafter]
    rfl

theorem not_calledBack_unlockWatch :
    ¬ service.CalledBack listener (service.unlockWatch env caller watch listener).2 := by
  rintro ⟨called, hafter, hbefore, -⟩
  rw [unlockWatch_unlockCalled] at hafter
  exact hbefore hafter

/-- Where `IsLockedWatch` finds nothing locked, `UnlockWatch` changes nothing. -/
theorem unlockWatch_of_not_locked (hlocked : service.isLockedWatch env caller watch = .ok false) :
    service.unlockWatch env caller watch listener = (.ok, service) := by
  unfold isLockedWatch at hlocked
  split at hlocked
  next => cases hlocked
  next hdoor =>
    simp only [Except.ok.injEq, Bool.or_eq_false_iff] at hlocked
    obtain ⟨hdevice, happ⟩ := hlocked
    rw [hdevice] at happ
    simp [unlockWatch, hdoor, hdevice, happ, unlockAppLock, WatchAppLockManager.unlockScreen]

/-- Over a locked device the listener is kept exactly if the request is accepted. -/
theorem keepsListener_of_locked
    (hdoor : ¬ (caller.tokenType = .hap ∧ caller.systemApp = false))
    (hlocked : service.isScreenLocked env caller watch = true) :
    KeepsListener env caller watch listener service ↔
      MayUnlock env caller ∧
        (AuthenticatesFirst env caller watch service → watch.authResult = 0) := by
  have hcalled := @not_calledBack_unlockWatch env caller watch listener service
  simp only [KeepsListener, unlockWatch, underlyingResult, if_neg hdoor, hlocked, if_true]
    at hcalled ⊢
  rcases service.unlockScreen_cases env caller watch listener with ⟨hmay, hresult⟩ |
    ⟨-, hfirst, hrefused, hresult⟩ | ⟨hmay, hfirst, before, -, hresult⟩
  · refine iff_of_false ?_ fun hall => hmay hall.1
    rintro ⟨-, hreturned⟩
    simp [hresult] at hreturned
  · refine iff_of_false ?_ fun hall => ?_
    · rintro ⟨-, hreturned⟩
      exact hrefused (hreturned _ (by rw [hresult]) hrefused).symm
    · exact hrefused ((unlockAppLock_of_isScreenLocked hfirst hlocked).mpr (hall.2 hfirst))
  · refine iff_of_true ⟨fun _ => ?_, fun code hcode hrefused => ?_⟩ ⟨hmay, fun hthen => ?_⟩
    · rw [hresult]
      exact Or.inl waits_queueUnlockListener
    · rw [hresult] at hcode
      exact absurd (Option.some.inj hcode).symm hrefused
    · exact (unlockAppLock_of_isScreenLocked hthen hlocked).mp (hfirst hthen)

/-- Over an unlocked device it is kept only if it was waiting already. -/
theorem keepsListener_of_unlocked
    (hdoor : ¬ (caller.tokenType = .hap ∧ caller.systemApp = false))
    (hlocked : service.isScreenLocked env caller watch = false) :
    KeepsListener env caller watch listener service ↔
      service.Waits listener ∧
        service.appLock.isScreenLocked watch.platform watch.bundleName false = true ∧
        watch.authResult = 0 := by
  have hcalled := @not_calledBack_unlockWatch env caller watch listener service
  simp only [KeepsListener, unlockWatch, underlyingResult, if_neg hdoor, hlocked,
    Bool.false_eq_true, if_false] at hcalled ⊢
  have haccepts : (service.unlockAppLock watch
      (service.appLock.isScreenLocked watch.platform watch.bundleName false)).1 = .ok ↔
        service.appLock.isScreenLocked watch.platform watch.bundleName false = true ∧
          watch.authResult = 0 := by
    rw [unlockAppLock_eq_ok_iff]
    constructor
    · exact fun hall => ⟨hall.1, hall.2.2⟩
    · exact fun hall => ⟨hall.1, hasPin_of_appLocked hall.1, hall.2⟩
  rw [← haccepts]
  constructor
  · rintro ⟨hkept, hreturned⟩
    refine ⟨(hkept trivial).resolve_right hcalled, ?_⟩
    by_contra hrefused
    exact hrefused (hreturned _ rfl hrefused).symm
  · rintro ⟨hwaits, haccepted⟩
    refine ⟨fun _ => Or.inl hwaits, fun code hcode hrefused => ?_⟩
    exact absurd ((Option.some.inj hcode).symm.trans haccepted) hrefused

/-- The listener is kept exactly if the caller is turned away at once, the
device is locked and the request accepted, or it was waiting before. -/
theorem keepsListener_iff (env : Environment) (caller : Caller) (watch : WatchEnvironment)
    (listener : ScreenLockCallback) (service : WatchScreenLock) :
    KeepsListener env caller watch listener service ↔
      (caller.tokenType = .hap ∧ caller.systemApp = false) ∨
      (service.isScreenLocked env caller watch = true ∧ MayUnlock env caller ∧
        (AuthenticatesFirst env caller watch service → watch.authResult = 0)) ∨
      (service.isScreenLocked env caller watch = false ∧ service.Waits listener ∧
        service.appLock.isScreenLocked watch.platform watch.bundleName false = true ∧
        watch.authResult = 0) := by
  by_cases hdoor : caller.tokenType = .hap ∧ caller.systemApp = false
  · refine iff_of_true ?_ (Or.inl hdoor)
    simp [KeepsListener, unlockWatch, underlyingResult, hdoor]
  · cases hlocked : service.isScreenLocked env caller watch with
    | true =>
        rw [keepsListener_of_locked hdoor hlocked]
        simp [hdoor]
    | false =>
        rw [keepsListener_of_unlocked hdoor hlocked]
        simp [hdoor]

end UnlockWatch

/-- A watch on which the device is unlocked and the application is not. -/
def appLocked : WatchScreenLock where
  ability := (ScreenLockSystemAbility.started ∅).setScreenlocked false 100
  appLock := WatchAppLockManager.start settingDisenableValue settingDisenableValue

/-- The bundle of the caller, with a widget authentication that ends so. -/
def wallet (authResult : Int) : WatchEnvironment where
  platform := WatchPlatform.willing
  bundleName := "wallet"
  paymentServices := some []
  authResult := authResult

/-- A failed authentication is answered with a success, and a successful one
leaves the listener neither queued nor called. -/
theorem appLocked_drops_listener :
    ¬ KeepsListener (.single 100) (.privileged 100) (wallet 1) 1 appLocked ∧
      (appLocked.unlockWatch (.single 100) (.privileged 100) (wallet 1) 1).1 = .ok ∧
      appLocked.underlyingResult (.single 100) (.privileged 100) (wallet 1) 1 =
        some .notFocusApp ∧
      ¬ KeepsListener (.single 100) (.privileged 100) (wallet 0) 1 appLocked ∧
      (appLocked.unlockWatch (.single 100) (.privileged 100) (wallet 0) 1).1 = .ok ∧
      appLocked.underlyingResult (.single 100) (.privileged 100) (wallet 0) 1 = some .ok := by
  have hunlocked (authResult : Int) :
      appLocked.isScreenLocked (.single 100) (.privileged 100) (wallet authResult) = false := by
    rfl
  have hwaits : ¬ appLocked.Waits 1 := List.not_mem_nil
  refine ⟨?_, by decide, by decide, ?_, by decide, by decide⟩
  · rw [keepsListener_of_unlocked (by decide) (hunlocked 1)]
    exact fun hkept => hwaits hkept.1
  · rw [keepsListener_of_unlocked (by decide) (hunlocked 0)]
    exact fun hkept => hwaits hkept.1

end WatchScreenLock

end Screenlock
