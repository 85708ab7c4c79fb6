import Screenlock.StrongAuth.Flags

/-! # Stages of the timer's period

A changed PIN sets the first stage. Each stage that a successful authentication
finds expired gives way to the next, longer one; the last is the default, after
which the timer asks for a different reason.
-/

namespace Screenlock

/-- A stage is over at `currentTime`, so a reading moves on to the next. -/
def TimerInfo.Expired (info : TimerInfo) (currentTime : Int) : Prop :=
  (periodStages.lookup info.triggerPeriod).isSome ∧
    currentTime - info.credChangeTimerStamp > info.triggerPeriod

namespace TimerInfo

theorem advance_of_not_expired {info : TimerInfo} {currentTime : Int}
    (hfresh : ¬ info.Expired currentTime) :
    info.advance currentTime = info := by
  unfold advance
  cases hnext : periodStages.lookup info.triggerPeriod with
  | none => rfl
  | some next =>
      dsimp only
      rw [if_neg]
      intro hover
      exact hfresh ⟨by rw [hnext]; rfl, hover⟩

theorem stage_mem {period next : Int} (hnext : periodStages.lookup period = some next) :
    (period, next) ∈ periodStages := by
  obtain ⟨before, after, hstages, _⟩ := List.lookup_eq_some_iff.mp hnext
  rw [hstages]
  exact List.mem_append_right before List.mem_cons_self

/-- Every stage gives way to a longer one. -/
theorem stage_lt {period next : Int} (hnext : periodStages.lookup period = some next) :
    0 < period ∧ period < next ∧ next ≤ defaultStrongAuthTimeoutMs := by
  have hall : ∀ stage ∈ periodStages,
      0 < stage.1 ∧ stage.1 < stage.2 ∧ stage.2 ≤ defaultStrongAuthTimeoutMs := by decide
  exact hall _ (stage_mem hnext)

theorem advance_of_expired {info : TimerInfo} {currentTime next : Int}
    (hnext : periodStages.lookup info.triggerPeriod = some next)
    (hover : currentTime - info.credChangeTimerStamp > info.triggerPeriod) :
    info.advance currentTime =
      { info with triggerPeriod := next, credChangeTimerStamp := currentTime } := by
  unfold advance
  rw [hnext]
  exact if_pos hover

theorem advance_period_iff (info : TimerInfo) (currentTime : Int) :
    (info.advance currentTime).triggerPeriod = info.triggerPeriod ↔
      ¬ info.Expired currentTime := by
  constructor
  · rintro hsame ⟨hstage, hover⟩
    obtain ⟨next, hnext⟩ := Option.isSome_iff_exists.mp hstage
    rw [advance_of_expired hnext hover] at hsame
    have hlt := (stage_lt hnext).2.1
    change next = info.triggerPeriod at hsame
    omega
  · intro hfresh
    rw [advance_of_not_expired hfresh]

theorem advance_period (info : TimerInfo) (currentTime : Int) :
    (info.advance currentTime).triggerPeriod = info.triggerPeriod ∨
      periodStages.lookup info.triggerPeriod = some (info.advance currentTime).triggerPeriod := by
  by_cases hexpired : info.Expired currentTime
  · obtain ⟨hstage, hover⟩ := hexpired
    obtain ⟨next, hnext⟩ := Option.isSome_iff_exists.mp hstage
    rw [advance_of_expired hnext hover]
    exact Or.inr hnext
  · rw [advance_of_not_expired hexpired]
    exact Or.inl rfl

/-- Reading never yields the first stage unless it is on record and not over. -/
theorem advance_first_iff (info : TimerInfo) (currentTime : Int) :
    (info.advance currentTime).triggerPeriod = credChangeFirstStrongAuthTimeoutMs ↔
      info.triggerPeriod = credChangeFirstStrongAuthTimeoutMs ∧ ¬ info.Expired currentTime := by
  by_cases hexpired : info.Expired currentTime
  · obtain ⟨hstage, hover⟩ := hexpired
    obtain ⟨next, hnext⟩ := Option.isSome_iff_exists.mp hstage
    have hall : ∀ stage ∈ periodStages, stage.2 ≠ credChangeFirstStrongAuthTimeoutMs := by decide
    have hne := hall _ (stage_mem hnext)
    rw [advance_of_expired hnext hover]
    constructor
    · exact fun hfirst => absurd hfirst hne
    · exact fun hboth => absurd ⟨hstage, hover⟩ hboth.2
  · rw [advance_of_not_expired hexpired]
    exact ⟨fun hfirst => ⟨hfirst, hexpired⟩, And.left⟩

/-- The record a successful authentication at `currentTime` leaves. -/
def renewed (info : TimerInfo) (currentTime : Int) : TimerInfo :=
  { info.advance currentTime with credChangeTimerStamp := currentTime }

/-- The periods that two successful authentications, one after the other, can
leave between two moments. -/
def Attainable (info : TimerInfo) (clock now triggerPeriod : Int) : Prop :=
  ∃ early late, clock ≤ early ∧ early ≤ late ∧ late ≤ now ∧
    triggerPeriod = ((info.renewed early).advance late).triggerPeriod

theorem attainable_mono {info : TimerInfo} {clock now later triggerPeriod : Int}
    (hattainable : info.Attainable clock now triggerPeriod) (hlater : now ≤ later) :
    info.Attainable clock later triggerPeriod := by
  obtain ⟨early, late, hclock, horder, hnow, hperiod⟩ := hattainable
  exact ⟨early, late, hclock, horder, Int.le_trans hnow hlater, hperiod⟩

/-- Both may run at once. -/
theorem attainable_advance {info : TimerInfo} {clock now currentTime : Int}
    (hclock : clock ≤ currentTime) (hnow : currentTime ≤ now) :
    info.Attainable clock now (info.advance currentTime).triggerPeriod := by
  have hfresh : ¬ (info.renewed currentTime).Expired currentTime := by
    rintro ⟨hstage, hover⟩
    obtain ⟨next, hnext⟩ := Option.isSome_iff_exists.mp hstage
    have hpositive := (stage_lt hnext).1
    change currentTime - currentTime > (info.renewed currentTime).triggerPeriod at hover
    omega
  refine ⟨currentTime, currentTime, hclock, Int.le_refl _, hnow, ?_⟩
  rw [advance_of_not_expired hfresh]
  rfl

/-- A second reading, of the record the first one left or renewed. -/
theorem attainable_second {info found : TimerInfo} {clock now first second : Int}
    (hfirst : clock ≤ first) (hfirst' : first ≤ now) (hsecond : clock ≤ second)
    (hsecond' : second ≤ now)
    (hperiod : found.triggerPeriod = (info.advance first).triggerPeriod)
    (hfound : found = info.advance first ∨ first ≤ found.credChangeTimerStamp) :
    info.Attainable clock now (found.advance second).triggerPeriod := by
  by_cases hexpired : found.Expired second
  · obtain ⟨hstage, hover⟩ := hexpired
    obtain ⟨next, hnext⟩ := Option.isSome_iff_exists.mp hstage
    have hpositive := (stage_lt hnext).1
    rw [advance_of_expired hnext hover]
    -- with the stamp at or after the first reading, the second finds the stage over
    have hstamped : first ≤ found.credChangeTimerStamp →
        info.Attainable clock now next := by
      intro hstamp
      have hsame : (info.renewed first).triggerPeriod = found.triggerPeriod := hperiod.symm
      have hnext' : periodStages.lookup (info.renewed first).triggerPeriod = some next := by
        rw [hsame]
        exact hnext
      have hover' : second - (info.renewed first).credChangeTimerStamp >
          (info.renewed first).triggerPeriod := by
        rw [hsame]
        change second - first > _
        omega
      refine ⟨first, second, hfirst, by omega, hsecond', ?_⟩
      rw [advance_of_expired hnext' hover']
    rcases hfound with rfl | hstamp
    · by_cases hover' : info.Expired first
      · obtain ⟨hstage', hpast⟩ := hover'
        obtain ⟨next', hnext'⟩ := Option.isSome_iff_exists.mp hstage'
        apply hstamped
        rw [advance_of_expired hnext' hpast]
      · rw [advance_of_not_expired hover'] at hnext hover
        have hattained : info.Attainable clock now (info.advance second).triggerPeriod :=
          attainable_advance hsecond hsecond'
        rw [advance_of_expired hnext hover] at hattained
        exact hattained
    · exact hstamped hstamp
  · rw [advance_of_not_expired hexpired, hperiod]
    exact attainable_advance hfirst hfirst'

/-- The flag the account's own timer asks for. -/
def timeoutFlag (info : TimerInfo) : Int :=
  StrongAuthManger.timeoutReason (StrongAuthManger.narrow info.triggerPeriod)

theorem timeoutFlag_congr {info info' : TimerInfo}
    (hperiod : info.triggerPeriod = info'.triggerPeriod) :
    info.timeoutFlag = info'.timeoutFlag := by
  unfold timeoutFlag
  rw [hperiod]

theorem timeoutFlag_ne_none (info : TimerInfo) :
    info.timeoutFlag ≠ StrongAuthReasonFlags.none := by
  unfold timeoutFlag StrongAuthManger.timeoutReason
  split <;> decide

/-- Only the step from the last stage to the default changes the reason. -/
theorem timeoutFlag_advance_iff (info : TimerInfo) (currentTime : Int) :
    (info.advance currentTime).timeoutFlag = info.timeoutFlag ↔
      ¬ (info.triggerPeriod = credChangeFourthStrongAuthTimeoutMs ∧
        info.Expired currentTime) := by
  by_cases hexpired : info.Expired currentTime
  · obtain ⟨hstage, hover⟩ := hexpired
    obtain ⟨next, hnext⟩ := Option.isSome_iff_exists.mp hstage
    have hall : ∀ stage ∈ periodStages,
        (StrongAuthManger.timeoutReason (StrongAuthManger.narrow stage.2) =
          StrongAuthManger.timeoutReason (StrongAuthManger.narrow stage.1) ↔
            ¬ stage.1 = credChangeFourthStrongAuthTimeoutMs) := by decide
    have hreason := hall _ (stage_mem hnext)
    rw [advance_of_expired hnext hover]
    constructor
    · exact fun hsame hboth => hreason.mp hsame hboth.1
    · exact fun hfound => hreason.mpr fun hfourth => hfound ⟨hfourth, hstage, hover⟩
  · rw [advance_of_not_expired hexpired]
    exact ⟨fun _ hboth => hexpired hboth.2, fun _ => rfl⟩

end TimerInfo

namespace StrongAuthManger

@[simp] theorem requested_none (before : Option Int) :
    requested before StrongAuthReasonFlags.none = StrongAuthReasonFlags.none := by
  unfold requested
  exact if_neg (fun hboth => hboth.2 rfl)

@[simp] theorem requested_cleared (reasonFlag : Int) :
    requested (some StrongAuthReasonFlags.none) reasonFlag = reasonFlag := by
  unfold requested
  exact if_neg (fun hboth => absurd hboth.1 (by decide))

/-- Asking twice for the same changes nothing. -/
theorem requested_twice (before : Option Int) (reasonFlag : Int) :
    requested (some (requested before reasonFlag)) reasonFlag = requested before reasonFlag := by
  unfold requested
  split
  · next hguard => exact if_pos ⟨rfl, hguard.2⟩
  · split
    · next hboot => exact (Option.some.inj hboot.1).symm
    · rfl

end StrongAuthManger

end Screenlock
