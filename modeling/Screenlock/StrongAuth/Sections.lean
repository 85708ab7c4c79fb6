import Screenlock.StrongAuth.Flags

/-! # Handlers as sequences of atomic sections

Three handlers of the manager concern one account at run time: the one for a
successful PIN authentication, the one for a new PIN, and the callback of the
account's timer. Each is a sequence of sections under `strongAuthTimerMutex` and
of calls to the time service. The handlers are written here over any data that
has these sections: the manager is one such, and one account seen by itself is
another that follows it.
-/

namespace Screenlock

/-- The changes of a PIN that renew the account's timer. -/
inductive PinRenewal where
  | addCred (isSilentCredChange : Bool)
  | updateCred
  deriving DecidableEq, Repr

inductive Handler where
  | authSuccess
  | credChange (renewal : PinRenewal)
  | timerFired
  deriving DecidableEq, Repr

/-- The entry into the manager that runs the handler for an account. -/
def Handler.event (userId : UserId) : Handler → StrongAuthEvent
  | .authSuccess => .authSuccess userId .pin false
  | .credChange (.addCred isSilentCredChange) =>
      .credChange userId .pin .addCred isSilentCredChange
  | .credChange .updateCred => .credChange userId .pin .updateCred false
  | .timerFired => .timerFired userId

/-- The atomic sections of the handlers for one account. `startStrongAuthTimer`
holds the mutex from its look-up to its insertion. -/
structure Sections (σ : Type*) where
  setStrongAuthStat : Int → σ → σ
  isUserExitInStrongAuthInfo : σ → Bool
  getTimerId : σ → TimerId
  startStrongAuthTimer : Int → Int → σ → σ
  startTimer : TimerId → Int → Int → σ → σ
  stopTimer : TimerId → σ → σ
  setCredChangeTriggerPeriod : Int → Int → σ → σ
  getStrongAuthTriggerPeriod : Int → σ → Int × σ
  getStrongAuthTimeTrigger : σ → Int

namespace Sections

variable {σ : Type*} (sections : Sections σ)

def resetStrongAuthTimer (currentTime laterTime triggerPeriod : Int) (shared : σ) : σ :=
  if sections.getTimerId shared = 0 then
    sections.startStrongAuthTimer currentTime triggerPeriod shared
  else
    let timerId := sections.getTimerId shared
    sections.setCredChangeTriggerPeriod laterTime triggerPeriod
      (sections.startTimer timerId currentTime triggerPeriod (sections.stopTimer timerId shared))

/-- A handler that runs to its end; `bootTimeMs` are its reads of the boot time. -/
def handle (bootTimeMs : Nat → Int) : Handler → σ → σ
  | .authSuccess, shared =>
      let (triggerPeriod, advanced) := sections.getStrongAuthTriggerPeriod (bootTimeMs 0)
        (sections.setStrongAuthStat StrongAuthReasonFlags.none shared)
      sections.resetStrongAuthTimer (bootTimeMs 1) (bootTimeMs 2) triggerPeriod advanced
  | .credChange _, shared =>
      if sections.isUserExitInStrongAuthInfo shared then
        sections.resetStrongAuthTimer (bootTimeMs 0) (bootTimeMs 1)
          credChangeFirstStrongAuthTimeoutMs shared
      else shared
  | .timerFired, shared =>
      sections.setStrongAuthStat
        (StrongAuthManger.timeoutReason (sections.getStrongAuthTimeTrigger shared)) shared

end Sections

namespace StrongAuthManger

variable (env : Environment) (userId : UserId) (manager : StrongAuthManger)

def sections : Sections StrongAuthManger where
  setStrongAuthStat reasonFlag manager := manager.setStrongAuthStat env userId reasonFlag
  isUserExitInStrongAuthInfo manager := manager.isUserExitInStrongAuthInfo userId
  getTimerId manager := manager.getTimerId userId
  startStrongAuthTimer currentTime triggerPeriod manager :=
    manager.startStrongAuthTimer env.createdTimer currentTime userId triggerPeriod
  startTimer timerId currentTime triggerPeriod manager :=
    manager.startTimer timerId currentTime triggerPeriod
  stopTimer timerId manager := manager.stopTimer timerId
  setCredChangeTriggerPeriod currentTime triggerPeriod manager :=
    manager.setCredChangeTriggerPeriod currentTime userId triggerPeriod
  getStrongAuthTriggerPeriod currentTime manager :=
    manager.getStrongAuthTriggerPeriod currentTime userId
  getStrongAuthTimeTrigger manager := manager.getStrongAuthTimeTrigger userId

/-- The handlers of the manager are made of these sections. -/
theorem enter_eq_handle (hdevice : env.deviceType ≠ "2in1") (handler : Handler) :
    manager.enter env (handler.event userId) =
      (sections env userId).handle env.bootTimeMs handler manager := by
  cases handler with
  | authSuccess =>
      change manager.onNotifyAuthSuccessEvent env userId .pin false = _
      unfold onNotifyAuthSuccessEvent
      simp only [and_self, if_true]
      rfl
  | credChange renewal =>
      have hreset : (sections env userId).handle env.bootTimeMs (.credChange renewal) manager =
          if manager.isUserExitInStrongAuthInfo userId then
            manager.resetStrongAuthTimer env.createdTimer (env.bootTimeMs 0) (env.bootTimeMs 1)
              userId credChangeFirstStrongAuthTimeoutMs
          else manager := rfl
      rw [hreset]
      cases renewal <;>
        simp [Handler.event, enter, onNotifyCredChangeEvent, hdevice]
  | timerFired => rfl

end StrongAuthManger

end Screenlock
