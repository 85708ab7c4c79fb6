import Screenlock.StrongAuth.Firing
import Screenlock.StrongAuth.Timeouts

/-! # Which races of handlers are serializable

Two handlers of the manager run at once for an account with a record and a
timer. Without a successful authentication every interleaving leaves what the
handlers leave one after the other. With one, the period it read may be written
back over a newer one, or not fit the flag a firing timer set in between.
-/

namespace Screenlock.StrongAuthManger

open Foundation

variable (env : Environment) (userId : UserId)

/-- Races of handlers of one account over the manager. -/
abbrev races : Machine (Race StrongAuthManger Thread) (Move AtomicStep) :=
  (Thread.program (sections env userId)).machine

/-- Both handlers of the account are called. -/
def race (manager : StrongAuthManger) (handlers : Side → Handler) (clock : Int) :
    Race StrongAuthManger Thread :=
  ⟨manager, fun side => .start (handlers side), clock⟩

/-- Both handlers have returned. -/
def Finished (race : Race StrongAuthManger Thread) : Prop :=
  ∀ side, (race.threads side).next = none

def HasTimer (manager : StrongAuthManger) : Prop :=
  ∃ info, manager.strongAuthTimerInfo[userId]? = some info ∧ info.timerId ≠ 0 ∧
    (manager.timers[info.timerId]?).isSome

def timerRecord (manager : StrongAuthManger) : Option TimerInfo :=
  manager.strongAuthTimerInfo[userId]?

/-- A handler that runs to its end and reads these boot times. -/
def enterAt (bootTimeMs : Nat → Int) (handler : Handler) (manager : StrongAuthManger) :
    StrongAuthManger :=
  manager.enter { env with bootTimeMs := bootTimeMs } (handler.event userId)

/-- The handlers run one after the other, each to its end. -/
def oneAfterTheOther (handlers : Side → Handler) (first : Side) (bootTimeMs : Nat → Int)
    (manager : StrongAuthManger) : StrongAuthManger :=
  enterAt env userId (fun read => bootTimeMs (3 + read)) (handlers first.other)
    (enterAt env userId bootTimeMs (handlers first) manager)

variable (handlers : Side → Handler) (clock : Int) (manager : StrongAuthManger)
  (moves : List (Move AtomicStep))

/-- The schedule leaves what the handlers leave in some order, while it lasts. -/
def Serializable : Prop :=
  ∃ first bootTimeMs,
    Readings clock ((races env userId).run (manager.race handlers clock) moves).clock bootTimeMs ∧
    (oneAfterTheOther env userId handlers first bootTimeMs manager).outcome userId =
      ((races env userId).run (manager.race handlers clock) moves).shared.outcome userId

/-- A PIN changed while another one succeeds leaves the first stage on record and armed. -/
def KeepsChange : Prop :=
  ∀ side renewal, handlers side = .authSuccess → handlers side.other = .credChange renewal →
    (((races env userId).run (manager.race handlers clock) moves).shared.outcome userId).2 =
      (some credChangeFirstStrongAuthTimeoutMs, some credChangeFirstStrongAuthTimeoutMs)

/-- Each successful authentication is ordered with the other handler's writes, or
finds a period that does no harm. -/
def Harmless : Prop :=
  ∀ side, handlers side = .authSuccess →
    OrderedFor side moves (handlers side.other) ∨
      (races env userId).Steps
        (FindsFor (timerRecord userId) (handlers side.other))
        (manager.race handlers clock) moves

section Kept

variable {env userId handlers clock manager moves}

theorem enterAt_eq_handle (hdevice : env.deviceType ≠ "2in1") (bootTimeMs : Nat → Int)
    (handler : Handler) (manager : StrongAuthManger) :
    enterAt env userId bootTimeMs handler manager =
      (sections env userId).handle bootTimeMs handler manager :=
  enter_eq_handle { env with bootTimeMs := bootTimeMs } userId manager hdevice handler

theorem kept_of_hasTimer (hknown : manager.isUserExitInStrongAuthInfo userId = true)
    (htimer : manager.HasTimer userId) : ∃ account, AuthAccount.KeptBy userId manager account := by
  obtain ⟨info, hinfo, hid, hlive⟩ := htimer
  obtain ⟨timer, htimer⟩ := Option.isSome_iff_exists.mp hlive
  obtain ⟨flag, hflag⟩ := Option.isSome_iff_exists.mp hknown
  refine ⟨⟨flag, info, timer.armed, hid⟩, hflag, hinfo, ?_⟩
  dsimp only
  rw [htimer]
  rfl

variable {account : AuthAccount} (hkept : account.KeptBy userId manager)

include hkept

theorem race_kept : AuthAccount.RaceKeptBy userId (manager.race handlers clock)
    (account.race handlers clock) where
  shared := hkept
  threads := rfl
  clock := rfl
  knows side hnext := by
    change (Thread.start (handlers side)).next = _ ∨ (Thread.start (handlers side)).next = _ ∨
      (Thread.start (handlers side)).next = _ at hnext
    cases hhandler : handlers side <;> simp [hhandler, Thread.start] at hnext

theorem outcome_oneAfterTheOther (hdevice : env.deviceType ≠ "2in1") (first : Side)
    (bootTimeMs : Nat → Int) :
    (oneAfterTheOther env userId handlers first bootTimeMs manager).outcome userId =
      (AuthAccount.sections.oneAfterTheOther handlers first bootTimeMs account).outcome := by
  unfold oneAfterTheOther
  rw [enterAt_eq_handle hdevice, enterAt_eq_handle hdevice]
  exact ((hkept.handle _ bootTimeMs (handlers first)).handle _
    (fun read => bootTimeMs (3 + read)) (handlers first.other)).outcome_eq

variable (hadmits : (races env userId).Admits (manager.race handlers clock) moves)

include hadmits

theorem run_kept : AuthAccount.RaceKeptBy userId
    ((races env userId).run (manager.race handlers clock) moves)
    (AuthAccount.races.run (account.race handlers clock) moves) :=
  (AuthAccount.lockstep env userId).run (race_kept hkept) hadmits

theorem serializable_kept (hdevice : env.deviceType ≠ "2in1") :
    Serializable env userId handlers clock manager moves ↔
      AuthAccount.SerialOutcome handlers account clock
        (AuthAccount.races.run (account.race handlers clock) moves).clock
        (AuthAccount.races.run (account.race handlers clock) moves).shared.outcome := by
  have hrun := run_kept hkept hadmits
  unfold Serializable AuthAccount.SerialOutcome
  simp only [outcome_oneAfterTheOther hkept hdevice, hrun.clock, hrun.shared.outcome_eq]

theorem finds_kept (handler : Handler) :
    (races env userId).Steps (FindsFor (timerRecord userId) handler) (manager.race handlers clock)
        moves ↔
      AuthAccount.races.Steps (FindsFor AuthAccount.record handler) (account.race handlers clock)
        moves := by
  refine (AuthAccount.lockstep env userId).steps ?_ (race_kept hkept) hadmits
  intro race inner move hrace
  unfold FindsFor
  rw [timerRecord, hrace.shared.info, hrace.threads]
  rfl

theorem complete_kept
    (hfinished : Finished ((races env userId).run (manager.race handlers clock) moves)) :
    (Thread.program AuthAccount.sections).Complete
      (AuthAccount.races.run (account.race handlers clock) moves) := by
  intro side
  rw [← (run_kept hkept hadmits).threads]
  exact hfinished side

end Kept

section Serial

variable {env userId handlers clock manager moves}

/-- A schedule that is serial already is serializable: a thread by itself does
what its handler does. -/
theorem serializable_of_serial (hdevice : env.deviceType ≠ "2in1") (hserial : Serial moves)
    (hadmits : (races env userId).Admits (manager.race handlers clock) moves)
    (hfinished : Finished ((races env userId).run (manager.race handlers clock) moves)) :
    Serializable env userId handlers clock manager moves := by
  obtain ⟨first, middle, shared, hfirst, hsecond⟩ :=
    Program.alone_of_serial hserial hadmits hfinished
  obtain ⟨early, hearly, hshared⟩ := Thread.handle_alone hfirst
  obtain ⟨late, hlate, hfinal⟩ := Thread.handle_alone hsecond
  refine ⟨first, fun read => if read < 3 then early read else late (read - 3),
    hearly.append 3 hlate, ?_⟩
  have hfirst' : enterAt env userId (fun read => if read < 3 then early read else late (read - 3))
      (handlers first) manager = shared := by
    rw [enterAt_eq_handle hdevice, hshared]
    exact (sections env userId).handle_congr _ _ (fun read hread => if_pos hread)
  unfold oneAfterTheOther
  rw [hfirst', enterAt_eq_handle hdevice, hfinal]
  refine congrArg (outcome userId) ((sections env userId).handle_congr _ _ (fun read _ => ?_))
  dsimp only
  rw [if_neg (by omega), Nat.add_sub_cancel_left]

end Serial

section Complete

variable {env userId handlers clock manager moves}
  (hdevice : env.deviceType ≠ "2in1")
  (hknown : manager.isUserExitInStrongAuthInfo userId = true) (htimer : manager.HasTimer userId)
  (hadmits : (races env userId).Admits (manager.race handlers clock) moves)
  (hfinished : Finished ((races env userId).run (manager.race handlers clock) moves))

include hdevice hknown htimer hadmits hfinished

/-- A successful authentication against any handler. -/
theorem serializable_auth_iff {side : Side} (hauth : handlers side = .authSuccess) :
    Serializable env userId handlers clock manager moves ∧
        KeepsChange env userId handlers clock manager moves ↔
      OrderedFor side moves (handlers side.other) ∨
        (races env userId).Steps (FindsFor (timerRecord userId) (handlers side.other))
          (manager.race handlers clock) moves := by
  obtain ⟨account, hkept⟩ := kept_of_hasTimer hknown htimer
  have hrun := run_kept hkept hadmits
  have hinner := (AuthAccount.lockstep env userId).admits (race_kept hkept) hadmits
  have hcomplete := complete_kept hkept hadmits hfinished
  rw [serializable_kept hkept hadmits hdevice, finds_kept hkept hadmits]
  have hno : (∀ renewal, handlers side.other ≠ .credChange renewal) →
      KeepsChange env userId handlers clock manager moves := by
    intro hother either renewal _ hchange
    rcases Side.eq_or_other side either with rfl | rfl
    · exact absurd hchange (hother renewal)
    · rw [Side.other_other, hauth] at hchange
      cases hchange
  cases hother : handlers side.other with
  | authSuccess =>
      rw [and_iff_left (hno (by rw [hother]; exact fun _ h => Handler.noConfusion h)), ← hother]
      exact AuthAccount.auth_auth_iff hauth hinner hcomplete hother
  | credChange renewal =>
      have hkeeps : KeepsChange env userId handlers clock manager moves ↔
          (AuthAccount.races.run (account.race handlers clock) moves).shared.outcome.2 =
            (some credChangeFirstStrongAuthTimeoutMs, some credChangeFirstStrongAuthTimeoutMs) := by
        unfold KeepsChange
        rw [hrun.shared.outcome_eq]
        refine ⟨fun hall => hall side renewal hauth hother, fun heq either _ heither _ => heq⟩
      rw [hkeeps, ← hother]
      exact AuthAccount.auth_change_iff hauth hinner hcomplete hother
  | timerFired =>
      rw [and_iff_left (hno (by rw [hother]; exact fun _ h => Handler.noConfusion h)), ← hother]
      exact AuthAccount.auth_timer_iff hauth hother hinner hcomplete

theorem serializable_without_auth (hauth : ∀ side, handlers side ≠ .authSuccess) :
    Serializable env userId handlers clock manager moves := by
  obtain ⟨account, hkept⟩ := kept_of_hasTimer hknown htimer
  rw [serializable_kept hkept hadmits hdevice]
  exact AuthAccount.serial_without_auth hauth
    ((AuthAccount.lockstep env userId).admits (race_kept hkept) hadmits)
    (complete_kept hkept hadmits hfinished)

/-- A race of two handlers is serializable, and keeps the first stage of a changed
PIN, exactly if it is harmless. -/
theorem serializable_iff :
    Serializable env userId handlers clock manager moves ∧
        KeepsChange env userId handlers clock manager moves ↔
      Harmless env userId handlers clock manager moves := by
  by_cases hauth : ∃ side, handlers side = .authSuccess
  · obtain ⟨side, hside⟩ := hauth
    constructor
    · intro hserial either heither
      exact (serializable_auth_iff hdevice hknown htimer hadmits hfinished heither).mp hserial
    · intro hharmless
      exact (serializable_auth_iff hdevice hknown htimer hadmits hfinished hside).mpr
        (hharmless side hside)
  · have hother : ∀ side, handlers side ≠ .authSuccess := fun side hside => hauth ⟨side, hside⟩
    refine iff_of_true ⟨serializable_without_auth hdevice hknown htimer hadmits hfinished hother,
      fun side _ hside => absurd hside (hother side)⟩ (fun side hside => absurd hside (hother side))

end Complete

/-- Account 100 right after boot: its PIN is required, and its timer runs for the
default period. -/
def afterBoot : StrongAuthManger :=
  (empty.enter (.single 100) (.getCredInfo 100)).enter (.single 100)
    (.credentialInfo 100 .success [⟨1⟩])

/-- A successful authentication on the left, a new PIN on the right. -/
def pinChange : Side → Handler
  | .left => .authSuccess
  | .right => .credChange (.addCred false)

/-- The authentication reads the period, the change renews the timer, and then the
authentication renews it with the period it has read. -/
def staleRenewal : List (Move AtomicStep) :=
  [⟨.left, .setStrongAuthStat, 0⟩, ⟨.left, .periodBootTime, 0⟩,
    ⟨.left, .getStrongAuthTriggerPeriod, 0⟩,
    ⟨.right, .isUserExitInStrongAuthInfo, 0⟩, ⟨.right, .getTimerId, 0⟩,
    ⟨.right, .resetBootTime, 0⟩, ⟨.right, .stopTimer, 0⟩, ⟨.right, .startTimer, 0⟩,
    ⟨.right, .setCredChangeTriggerPeriod, 0⟩,
    ⟨.left, .getTimerId, 0⟩, ⟨.left, .resetBootTime, 0⟩, ⟨.left, .stopTimer, 0⟩,
    ⟨.left, .startTimer, 0⟩, ⟨.left, .setCredChangeTriggerPeriod, 0⟩]

theorem staleRenewal_admits :
    (races (.single 100) 100).Admits (afterBoot.race pinChange 0) staleRenewal := by
  decide

theorem staleRenewal_finished :
    Finished ((races (.single 100) 100).run (afterBoot.race pinChange 0) staleRenewal) := by
  intro side
  cases side <;> decide

theorem afterBoot_hasTimer : afterBoot.HasTimer 100 :=
  ⟨⟨1, defaultStrongAuthTimeoutMs, 0⟩, by decide, by decide, by decide⟩

theorem staleRenewal_serializable_iff :
    Serializable (.single 100) 100 pinChange 0 afterBoot staleRenewal ∧
        KeepsChange (.single 100) 100 pinChange 0 afterBoot staleRenewal ↔
      Harmless (.single 100) 100 pinChange 0 afterBoot staleRenewal :=
  serializable_iff (by decide) (by decide) afterBoot_hasTimer staleRenewal_admits
    staleRenewal_finished

theorem staleRenewal_outcome :
    ((races (.single 100) 100).run (afterBoot.race pinChange 0) staleRenewal).shared.outcome 100 =
      (some StrongAuthReasonFlags.none, some defaultStrongAuthTimeoutMs,
        some defaultStrongAuthTimeoutMs) := by
  decide

/-- The changed PIN is forgotten: the default period is on record and armed, which
neither order of the handlers leaves. -/
theorem staleRenewal_not_serializable :
    (races (.single 100) 100).Admits (afterBoot.race pinChange 0) staleRenewal ∧
      Finished ((races (.single 100) 100).run (afterBoot.race pinChange 0) staleRenewal) ∧
      ¬ Serializable (.single 100) 100 pinChange 0 afterBoot staleRenewal ∧
      ¬ KeepsChange (.single 100) 100 pinChange 0 afterBoot staleRenewal := by
  refine ⟨staleRenewal_admits, staleRenewal_finished, ?_, fun hkeeps => ?_⟩
  · rintro ⟨first, bootTimeMs, _, hserial⟩
    obtain ⟨account, hkept⟩ : ∃ account, AuthAccount.KeptBy 100 afterBoot account :=
      kept_of_hasTimer (by decide) afterBoot_hasTimer
    rw [outcome_oneAfterTheOther hkept (by decide), staleRenewal_outcome] at hserial
    unfold Sections.oneAfterTheOther at hserial
    cases first with
    | left =>
        have houtcome := AuthAccount.outcome_credChange
          (AuthAccount.sections.handle bootTimeMs .authSuccess account)
          (fun read => bootTimeMs (3 + read)) (.addCred false)
        have hperiod := (Prod.mk.inj (Prod.mk.inj (houtcome.symm.trans hserial)).2).1
        exact absurd (Option.some.inj hperiod) (by decide)
    | right =>
        have houtcome := AuthAccount.outcome_authSuccess
          (AuthAccount.sections.handle bootTimeMs (.credChange (.addCred false)) account)
          (fun read => bootTimeMs (3 + read))
        have hperiod := (Prod.mk.inj (Prod.mk.inj (houtcome.symm.trans hserial)).2).1
        -- after the change only the first and the second stage can be read
        rw [AuthAccount.handle_credChange] at hperiod
        have hread := TimerInfo.advance_period
          (⟨account.info.timerId, credChangeFirstStrongAuthTimeoutMs, bootTimeMs 1⟩)
          (bootTimeMs 3)
        have hdefault := Option.some.inj hperiod
        change (TimerInfo.advance ⟨account.info.timerId, credChangeFirstStrongAuthTimeoutMs,
          bootTimeMs 1⟩ (bootTimeMs 3)).triggerPeriod = _ at hdefault
        rw [hdefault] at hread
        change defaultStrongAuthTimeoutMs = credChangeFirstStrongAuthTimeoutMs ∨
          periodStages.lookup credChangeFirstStrongAuthTimeoutMs =
            some defaultStrongAuthTimeoutMs at hread
        exact absurd hread (by decide)
  · have houtcome := hkeeps .left (.addCred false) rfl rfl
    rw [staleRenewal_outcome] at houtcome
    exact absurd houtcome (by decide)

end Screenlock.StrongAuthManger
