import Screenlock.StrongAuth.RaceHistory

/-! # Races with a successful authentication

A successful authentication reads the period in one section and writes it back
in others. What it found decides, together with the order of the last writes,
whether the race is serializable. The cases are the three handlers it can race
with.
-/

namespace Screenlock.AuthAccount

open Foundation

variable {handlers : Side → Handler} {start : Race AuthAccount Thread} {side : Side}

def record (account : AuthAccount) : Option TimerInfo := some account.info

theorem finds_iff {handler : Handler} {race : Race AuthAccount Thread} {move : Move AtomicStep}
    (hread : move.label = .getStrongAuthTriggerPeriod) :
    FindsFor record handler race move ↔
      FoundFor (race.threads move.side.other) race.shared.info
        (race.threads move.side).currentTime handler := by
  constructor
  · exact fun hfinds => hfinds hread _ rfl
  · rintro hfound _ _ ⟨rfl⟩
    exact hfound

theorem finds_of_ne {handler : Handler} {race : Race AuthAccount Thread} {move : Move AtomicStep}
    (hread : move.label ≠ .getStrongAuthTriggerPeriod) : FindsFor record handler race move :=
  fun hlabel => absurd hlabel hread

section Thread

variable {thread : Thread} {account : AuthAccount}

theorem auth_of_reading {handler : Handler} (hruns : thread.Runs handler)
    (hnext : thread.next = some .getStrongAuthTriggerPeriod) : handler = .authSuccess := by
  have hcomes := hruns.next _ hnext
  cases handler with
  | authSuccess => rfl
  | credChange renewal => simp [Handler.comesTo] at hcomes
  | timerFired => simp [Handler.comesTo] at hcomes

/-- A successful authentication gets its period by its reading alone. -/
theorem hasRead_step (time : Int) {label : AtomicStep} (hruns : thread.Runs .authSuccess)
    (hnext : thread.next = some label) (hread : label ≠ .getStrongAuthTriggerPeriod) :
    (Thread.step sections time thread account).1.HasRead ↔ thread.HasRead := by
  have hcomes := hruns.next _ hnext
  have hhandler := hruns.handler_eq
  have hknown : account.info.timerId ≠ 0 := account.known
  unfold Thread.HasRead Thread.step
  rw [hnext]
  cases label <;> revert hcomes hread <;>
    simp [Handler.comesTo, hhandler, hknown, sections]

theorem not_hasRead_of_next {label : AtomicStep} (hnext : thread.next = some label)
    (hbefore : label = .setStrongAuthStat ∨ label = .periodBootTime ∨
      label = .getStrongAuthTriggerPeriod) : ¬ thread.HasRead := by
  rintro ⟨hset, hboot, hread⟩
  rcases hbefore with rfl | rfl | rfl
  · exact hset hnext
  · exact hboot hnext
  · exact hread hnext

end Thread

/-- The time at which a successful authentication is about to read is a time of the race. -/
def ReadsNow (clock : Int) (race : Race AuthAccount Thread) : Prop :=
  clock ≤ race.clock ∧ ∀ side, (race.threads side).next = some .getStrongAuthTriggerPeriod →
    clock ≤ (race.threads side).currentTime ∧ (race.threads side).currentTime ≤ race.clock

theorem readsNow_step {clock : Int} {race : Race AuthAccount Thread} {move : Move AtomicStep}
    (henabled : races.enabled race move) (hruns : Runs handlers race)
    (hbefore : ReadsNow clock race) : ReadsNow clock (races.step race move) := by
  have hnext : (race.threads move.side).next = some move.label := henabled.2
  have htime : clock ≤ move.time := Int.le_trans hbefore.1 henabled.1
  refine ⟨htime, fun side hreads => ?_⟩
  rcases Side.eq_or_other move.side side with rfl | rfl
  · rw [stepped_self] at hreads ⊢
    have hboot := Thread.step_from_predecessor move.time (hruns _) hnext hreads rfl
    rw [hboot] at hnext
    rw [Thread.step, hnext]
    exact ⟨htime, Int.le_refl _⟩
  · rw [stepped_other] at hreads ⊢
    exact ⟨(hbefore.2 _ hreads).1, Int.le_trans (hbefore.2 _ hreads).2 henabled.1⟩

theorem readsNow_start (account : AuthAccount) (clock : Int) :
    ReadsNow clock (account.race handlers clock) := by
  refine ⟨Int.le_refl _, fun side hreads => ?_⟩
  change (Thread.start (handlers side)).next = _ at hreads
  cases hhandler : handlers side <;> rw [hhandler] at hreads <;> cases hreads

section NotReading

variable {race : Race AuthAccount Thread} {move : Move AtomicStep}

theorem steps_not_reading (start : Race AuthAccount Thread) (handler : Handler)
    (past : List (Move AtomicStep)) (hread : move.label ≠ .getStrongAuthTriggerPeriod) :
    races.Steps (FindsFor record handler) start (past ++ [move]) ↔
      races.Steps (FindsFor record handler) start past := by
  rw [races.steps_concat]
  exact and_iff_left (finds_of_ne hread)

theorem stepped_hasRead (hauth : handlers side = .authSuccess) (hruns : Runs handlers race)
    (hnext : (race.threads move.side).next = some move.label)
    (hread : move.label ≠ .getStrongAuthTriggerPeriod) :
    ((races.step race move).threads side).HasRead ↔ (race.threads side).HasRead := by
  rcases Side.eq_or_other move.side side with rfl | rfl
  · rw [stepped_self]
    have hruns := hruns move.side
    rw [hauth] at hruns
    exact hasRead_step move.time hruns hnext hread
  · rw [stepped_other]

theorem stepped_period (hnext : (race.threads move.side).next = some move.label)
    (hread : move.label ≠ .getStrongAuthTriggerPeriod) (side : Side) :
    ((races.step race move).threads side).triggerPeriod = (race.threads side).triggerPeriod := by
  rcases Side.eq_or_other move.side side with rfl | rfl
  · rw [stepped_self, Thread.step_triggerPeriod]
    simpa [hnext] using hread
  · rw [stepped_other]

/-- Only a thread that has its period changes the record, by writing it back. -/
theorem stepped_info (hnext : (race.threads move.side).next = some move.label)
    (hread : move.label ≠ .getStrongAuthTriggerPeriod) :
    (races.step race move).shared.info = race.shared.info ∨
      move.label = .setCredChangeTriggerPeriod ∧ (race.threads move.side).HasRead ∧
        (races.step race move).shared.info = { race.shared.info with
          triggerPeriod := (race.threads move.side).triggerPeriod
          credChangeTimerStamp := move.time } := by
  by_cases hrecord : move.label = .setCredChangeTriggerPeriod
  · refine Or.inr ⟨hrecord, ?_⟩
    rw [hrecord] at hnext
    refine ⟨⟨by simp [hnext], by simp [hnext], by simp [hnext]⟩, ?_⟩
    rw [stepped_shared, Thread.step, hnext]
    rfl
  · refine Or.inl ?_
    rw [stepped_shared, Thread.step_info]
    · simpa [hnext] using hrecord
    · simpa [hnext] using hread

end NotReading

section Reading

variable {race : Race AuthAccount Thread} {move : Move AtomicStep}
  (hnext : (race.threads move.side).next = some .getStrongAuthTriggerPeriod)

include hnext

/-- The reader takes the period the record comes to at the time it has asked for. -/
theorem reading_thread :
    (races.step race move).threads move.side =
      { race.threads move.side with
        next := some .getTimerId
        triggerPeriod :=
          (race.shared.info.advance (race.threads move.side).currentTime).triggerPeriod } := by
  rw [stepped_self, Thread.step, hnext]
  rfl

theorem reading_info :
    (races.step race move).shared.info =
      race.shared.info.advance (race.threads move.side).currentTime := by
  rw [stepped_shared, Thread.step, hnext]
  rfl

theorem reading_hasRead : ((races.step race move).threads move.side).HasRead := by
  rw [reading_thread hnext]
  exact ⟨by simp, by simp, by simp⟩

end Reading

section OneReader

/-- What the only successful authentication of a race has read so far. -/
structure ReadOnce (handlers : Side → Handler) (side : Side) (start : Race AuthAccount Thread)
    (past : List (Move AtomicStep)) (race : Race AuthAccount Thread) : Prop where
  runs : Runs handlers race
  now : ReadsNow start.clock race
  unread : ¬ (race.threads side).HasRead →
    races.Steps (FindsFor record (handlers side.other)) start past
  read : (race.threads side).HasRead → ∃ thread info currentTime,
    (start.clock ≤ currentTime ∧ currentTime ≤ race.clock) ∧
      (race.threads side).triggerPeriod = (info.advance currentTime).triggerPeriod ∧
      (races.Steps (FindsFor record (handlers side.other)) start past ↔
        FoundFor thread info currentTime (handlers side.other)) ∧
      (handlers side.other = .timerFired → info = start.shared.info)
  untouched : handlers side.other = .timerFired → ¬ (race.threads side).HasRead →
    race.shared.info = start.shared.info
  kept : handlers side.other = .timerFired → (race.threads side).HasRead →
    race.shared.info.triggerPeriod = (race.threads side).triggerPeriod

variable (hauth : handlers side = .authSuccess) (hother : handlers side.other ≠ .authSuccess)

include hauth hother

omit hauth in
theorem reader_eq {race : Race AuthAccount Thread} {move : Move AtomicStep}
    (hruns : Runs handlers race)
    (hnext : (race.threads move.side).next = some .getStrongAuthTriggerPeriod) :
    move.side = side := by
  rcases Side.eq_or_other side move.side with hside | hside
  · exact hside
  · have hreader := auth_of_reading (hruns move.side) hnext
    rw [hside] at hreader
    exact absurd hreader hother

omit hauth hother in
/-- Against a firing timer the record only changes to the period just read. -/
theorem kept_step {race : Race AuthAccount Thread} {move : Move AtomicStep}
    (hfired : handlers side.other = .timerFired) (hruns : Runs handlers race)
    (hnext : (race.threads move.side).next = some move.label)
    (hread : move.label ≠ .getStrongAuthTriggerPeriod) :
    (races.step race move).shared.info = race.shared.info ∨
      (race.threads side).HasRead ∧ (races.step race move).shared.info.triggerPeriod =
        (race.threads side).triggerPeriod := by
  rcases stepped_info hnext hread with hinfo | ⟨hrecord, hdone, hinfo⟩
  · exact Or.inl hinfo
  · have hcomes := (hruns move.side).next _ hnext
    have hmover : move.side = side := by
      rcases Side.eq_or_other side move.side with hside | hside
      · exact hside
      · rw [hrecord, hside, hfired] at hcomes
        simp [Handler.comesTo] at hcomes
    subst hmover
    refine Or.inr ⟨hdone, ?_⟩
    rw [hinfo]

theorem readOnce_reads {past : List (Move AtomicStep)} {move : Move AtomicStep}
    (henabled : races.enabled (races.run start past) move)
    (hread : move.label = .getStrongAuthTriggerPeriod)
    (hbefore : ReadOnce handlers side start past (races.run start past)) :
    ReadOnce handlers side start (past ++ [move]) (races.step (races.run start past) move) := by
  have hnext : ((races.run start past).threads move.side).next = some move.label := henabled.2
  rw [hread] at hnext
  obtain rfl := reader_eq hother hbefore.runs hnext
  have hunread := not_hasRead_of_next hnext (Or.inr (Or.inr rfl))
  have hstep := reading_thread hnext
  have hhasRead := reading_hasRead hnext
  obtain ⟨hlow, hhigh⟩ := hbefore.now.2 _ hnext
  refine ⟨runs_step _ move hbefore.runs, readsNow_step henabled hbefore.runs hbefore.now,
    fun hnot => absurd hhasRead hnot, fun _ => ?_, fun _ hnot => absurd hhasRead hnot,
    fun _ _ => ?_⟩
  · refine ⟨(races.run start past).threads move.side.other, (races.run start past).shared.info,
      ((races.run start past).threads move.side).currentTime,
      ⟨hlow, Int.le_trans hhigh henabled.1⟩, ?_, ?_, ?_⟩
    · rw [hstep]
    · rw [races.steps_concat, finds_iff hread]
      exact and_iff_right (hbefore.unread hunread)
    · exact fun hfired => hbefore.untouched hfired hunread
  · rw [hstep, reading_info hnext]

theorem readOnce_step (past : List (Move AtomicStep)) (move : Move AtomicStep)
    (henabled : races.enabled (races.run start past) move)
    (hbefore : ReadOnce handlers side start past (races.run start past)) :
    ReadOnce handlers side start (past ++ [move]) (races.step (races.run start past) move) := by
  by_cases hread : move.label = .getStrongAuthTriggerPeriod
  · exact readOnce_reads hauth hother henabled hread hbefore
  have hnext : ((races.run start past).threads move.side).next = some move.label := henabled.2
  have hsteps := steps_not_reading start (handlers side.other) past hread
  have hhasRead := stepped_hasRead hauth hbefore.runs hnext hread
  have hperiod := stepped_period hnext hread side
  refine ⟨runs_step _ move hbefore.runs, readsNow_step henabled hbefore.runs hbefore.now,
    ?_, ?_, ?_, ?_⟩
  · rw [hsteps, hhasRead]
    exact hbefore.unread
  · rw [hsteps, hhasRead, hperiod]
    intro hdone
    obtain ⟨thread, info, currentTime, ⟨hlow, hhigh⟩, hrest⟩ := hbefore.read hdone
    exact ⟨thread, info, currentTime, ⟨hlow, Int.le_trans hhigh henabled.1⟩, hrest⟩
  · rw [hhasRead]
    intro hfired hunread
    rcases kept_step hfired hbefore.runs hnext hread with hinfo | ⟨hdone, _⟩
    · rw [hinfo]
      exact hbefore.untouched hfired hunread
    · exact absurd hdone hunread
  · rw [hhasRead, hperiod]
    intro hfired hdone
    rcases kept_step hfired hbefore.runs hnext hread with hinfo | ⟨_, hinfo⟩
    · rw [hinfo]
      exact hbefore.kept hfired hdone
    · exact hinfo

omit hother in
theorem readOnce_start (account : AuthAccount) (clock : Int) :
    ReadOnce handlers side (account.race handlers clock) [] (account.race handlers clock) where
  runs side := Thread.start_runs (handlers side)
  now := readsNow_start account clock
  unread _ := trivial
  read hdone := by
    change (Thread.start (handlers side)).HasRead at hdone
    rw [hauth] at hdone
    exact absurd rfl hdone.1
  untouched _ _ := rfl
  kept _ hdone := by
    change (Thread.start (handlers side)).HasRead at hdone
    rw [hauth] at hdone
    exact absurd rfl hdone.1


end OneReader

section TwoReaders

/-- What two successful authentications have read so far. The record is the first
reader's until the second one reads it. -/
structure ReadTwice (handlers : Side → Handler) (start : Race AuthAccount Thread)
    (past : List (Move AtomicStep)) (race : Race AuthAccount Thread) : Prop where
  runs : Runs handlers race
  now : ReadsNow start.clock race
  unread : (∀ side, ¬ (race.threads side).HasRead) →
    race.shared.info = start.shared.info ∧ races.Steps (FindsFor record .authSuccess) start past
  one : ∀ side, (race.threads side).HasRead → ¬ (race.threads side.other).HasRead →
    races.Steps (FindsFor record .authSuccess) start past ∧
      race.shared.info.triggerPeriod = (race.threads side).triggerPeriod ∧
      ∃ first, start.clock ≤ first ∧ first ≤ race.clock ∧
        race.shared.info.triggerPeriod = (start.shared.info.advance first).triggerPeriod ∧
        (race.shared.info = start.shared.info.advance first ∨
          first ≤ race.shared.info.credChangeTimerStamp)
  both : ∀ side, (race.threads side).HasRead → (race.threads side.other).HasRead →
    ((race.threads side).triggerPeriod = (race.threads side.other).triggerPeriod ↔
      races.Steps (FindsFor record .authSuccess) start past)
  attained : ∀ side, (race.threads side).HasRead →
    start.shared.info.Attainable start.clock race.clock (race.threads side).triggerPeriod

variable (hauth : ∀ side, handlers side = .authSuccess)

include hauth

section SecondReading

variable {past : List (Move AtomicStep)} {move : Move AtomicStep}
  (hnext : ((races.run start past).threads move.side).next = some .getStrongAuthTriggerPeriod)
  (hread : move.label = .getStrongAuthTriggerPeriod)
  (hbefore : ReadTwice handlers start past (races.run start past))

include hnext

omit hauth in
theorem none_hasRead (hother : ¬ ((races.run start past).threads move.side.other).HasRead)
    (side : Side) : ¬ ((races.run start past).threads side).HasRead := by
  rcases Side.eq_or_other move.side side with rfl | rfl
  · exact not_hasRead_of_next hnext (Or.inr (Or.inr rfl))
  · exact hother

include hbefore

omit hauth in
/-- What the first reader has left, found by the second one. -/
theorem readTwice_first (hdone : ((races.run start past).threads move.side.other).HasRead) :
    races.Steps (FindsFor record .authSuccess) start past ∧
      (races.run start past).shared.info.triggerPeriod =
        ((races.run start past).threads move.side.other).triggerPeriod ∧
      ∃ first, start.clock ≤ first ∧ first ≤ (races.run start past).clock ∧
        (races.run start past).shared.info.triggerPeriod =
          (start.shared.info.advance first).triggerPeriod ∧
        ((races.run start past).shared.info = start.shared.info.advance first ∨
          first ≤ (races.run start past).shared.info.credChangeTimerStamp) := by
  refine hbefore.one move.side.other hdone ?_
  rw [Side.other_other]
  exact not_hasRead_of_next hnext (Or.inr (Or.inr rfl))

include hread

omit hauth in
/-- The second reader gets the first one's period exactly if it does not find it expired. -/
theorem readTwice_both (hdone : ((races.run start past).threads move.side.other).HasRead) :
    ((races.step (races.run start past) move).threads move.side).triggerPeriod =
        ((races.run start past).threads move.side.other).triggerPeriod ↔
      races.Steps (FindsFor record .authSuccess) start (past ++ [move]) := by
  have hsteps : races.Steps (FindsFor record .authSuccess) start (past ++ [move]) ↔
      races.Steps (FindsFor record .authSuccess) start past ∧
        (((races.run start past).threads move.side.other).HasRead →
          ¬ (races.run start past).shared.info.Expired
            ((races.run start past).threads move.side).currentTime) := by
    rw [races.steps_concat, finds_iff hread]
    rfl
  obtain ⟨hfound, hrecord, _⟩ := readTwice_first hnext hbefore hdone
  rw [hsteps, reading_thread hnext, ← hrecord, and_iff_right hfound, forall_prop_of_true hdone]
  exact TimerInfo.advance_period_iff _ _

omit hauth in
theorem readTwice_alone (hother : ¬ ((races.run start past).threads move.side.other).HasRead) :
    races.Steps (FindsFor record .authSuccess) start (past ++ [move]) := by
  rw [races.steps_concat, finds_iff hread]
  exact ⟨(hbefore.unread (none_hasRead hnext hother)).2, fun hdone => absurd hdone hother⟩

end SecondReading

omit hauth in
theorem readTwice_reads {past : List (Move AtomicStep)} {move : Move AtomicStep}
    (henabled : races.enabled (races.run start past) move)
    (hread : move.label = .getStrongAuthTriggerPeriod)
    (hbefore : ReadTwice handlers start past (races.run start past)) :
    ReadTwice handlers start (past ++ [move]) (races.step (races.run start past) move) := by
  have hnext : ((races.run start past).threads move.side).next = some move.label := henabled.2
  rw [hread] at hnext
  obtain ⟨hlow, hhigh⟩ := hbefore.now.2 _ hnext
  have htime : (races.run start past).clock ≤ move.time := henabled.1
  have hstep := reading_thread hnext
  have hinfo := reading_info hnext
  have hhasRead := reading_hasRead hnext
  refine ⟨runs_step _ move hbefore.runs, readsNow_step henabled hbefore.runs hbefore.now,
    fun hunread' => absurd hhasRead (hunread' _), fun side hdone hother => ?_,
    fun side hdone hdone' => ?_, fun side hdone => ?_⟩
  · -- the reader is the first one
    rcases Side.eq_or_other move.side side with rfl | rfl
    · rw [stepped_other] at hother
      obtain ⟨hsame, _⟩ := hbefore.unread (none_hasRead hnext hother)
      refine ⟨readTwice_alone hnext hread hbefore hother, by rw [hinfo, hstep],
        ((races.run start past).threads move.side).currentTime, hlow,
        Int.le_trans hhigh htime, ?_, Or.inl ?_⟩
      · rw [hinfo, hsame]
      · rw [hinfo, hsame]
    · rw [Side.other_other] at hother
      exact absurd hhasRead hother
  · -- the reader is the second one
    rcases Side.eq_or_other move.side side with rfl | rfl
    · rw [stepped_other] at hdone' ⊢
      exact readTwice_both hnext hread hbefore hdone'
    · rw [stepped_other] at hdone ⊢
      rw [Side.other_other, eq_comm]
      exact readTwice_both hnext hread hbefore hdone
  · rcases Side.eq_or_other move.side side with rfl | rfl
    · rw [hstep]
      by_cases hother : ((races.run start past).threads move.side.other).HasRead
      · obtain ⟨_, _, first, hclock, hfirst, hread', hstamp⟩ :=
          readTwice_first hnext hbefore hother
        exact TimerInfo.attainable_second hclock (Int.le_trans hfirst htime) hlow
          (Int.le_trans hhigh htime) hread' hstamp
      · obtain ⟨hsame, _⟩ := hbefore.unread (none_hasRead hnext hother)
        rw [hsame]
        exact TimerInfo.attainable_advance hlow (Int.le_trans hhigh htime)
    · rw [stepped_other] at hdone ⊢
      exact TimerInfo.attainable_mono (hbefore.attained _ hdone) htime

theorem readTwice_step (past : List (Move AtomicStep)) (move : Move AtomicStep)
    (henabled : races.enabled (races.run start past) move)
    (hbefore : ReadTwice handlers start past (races.run start past)) :
    ReadTwice handlers start (past ++ [move]) (races.step (races.run start past) move) := by
  by_cases hread : move.label = .getStrongAuthTriggerPeriod
  · exact readTwice_reads henabled hread hbefore
  have hnext : ((races.run start past).threads move.side).next = some move.label := henabled.2
  have hsteps := steps_not_reading start .authSuccess past hread
  have hhasRead := fun side => stepped_hasRead (hauth side) hbefore.runs hnext hread
  have hperiod := stepped_period hnext hread
  have htime : (races.run start past).clock ≤ move.time := henabled.1
  refine ⟨runs_step _ move hbefore.runs, readsNow_step henabled hbefore.runs hbefore.now,
    fun hnone => ?_, fun side => ?_, fun side => ?_, fun side => ?_⟩
  · rw [hsteps]
    have hnone' := fun side hdone => hnone side ((hhasRead side).mpr hdone)
    obtain ⟨hinfo, hfound⟩ := hbefore.unread hnone'
    rcases stepped_info hnext hread with hsame | ⟨_, hdone, _⟩
    · rw [hsame]
      exact ⟨hinfo, hfound⟩
    · exact absurd hdone (hnone' _)
  · rw [hhasRead, hhasRead, hperiod, hsteps]
    intro hdone hother
    obtain ⟨hfound, hrecord, first, hclock, hfirst, hread', hstamp⟩ := hbefore.one side hdone hother
    refine ⟨hfound, ?_⟩
    rcases stepped_info hnext hread with hsame | ⟨_, hdone', hwritten⟩
    · rw [hsame]
      exact ⟨hrecord, first, hclock, Int.le_trans hfirst htime, hread', hstamp⟩
    · -- the writer is the one that has read, so the period stays and the stamp moves on
      have hmover : move.side = side := by
        rcases Side.eq_or_other side move.side with hside | hside
        · exact hside
        · rw [hside] at hdone'
          exact absurd hdone' hother
      rw [hmover] at hwritten
      rw [hwritten]
      refine ⟨rfl, first, hclock, Int.le_trans hfirst htime, ?_, Or.inr ?_⟩
      · exact hrecord.symm.trans hread'
      · exact Int.le_trans hfirst htime
  · rw [hhasRead, hhasRead, hperiod, hperiod, hsteps]
    exact hbefore.both side
  · rw [hhasRead, hperiod]
    exact fun hdone => TimerInfo.attainable_mono (hbefore.attained side hdone) htime

theorem readTwice_start (account : AuthAccount) (clock : Int) :
    ReadTwice handlers (account.race handlers clock) [] (account.race handlers clock) := by
  have hunread : ∀ side, ¬ ((account.race handlers clock).threads side).HasRead := by
    intro side hdone
    change (Thread.start (handlers side)).HasRead at hdone
    rw [hauth] at hdone
    exact absurd rfl hdone.1
  exact ⟨fun side => Thread.start_runs (handlers side), readsNow_start account clock,
    fun _ => ⟨rfl, trivial⟩, fun side hdone => absurd hdone (hunread side),
    fun side hdone => absurd hdone (hunread side), fun side hdone => absurd hdone (hunread side)⟩

end TwoReaders

section Cleared

/-- Once the side has cleared the flag, it stays cleared. -/
def Cleared (handlers : Side → Handler) (side : Side) (race : Race AuthAccount Thread) : Prop :=
  Runs handlers race ∧ ((race.threads side).next ≠ some .setStrongAuthStat →
    race.shared.reasonFlag = StrongAuthReasonFlags.none)

variable (hquiet : ∀ side, handlers side ≠ .timerFired)

include hquiet

theorem cleared_step (race : Race AuthAccount Thread) (move : Move AtomicStep)
    (henabled : races.enabled race move) (hbefore : Cleared handlers side race) :
    Cleared handlers side (races.step race move) := by
  obtain ⟨hruns, hcleared⟩ := hbefore
  have hnext : (race.threads move.side).next = some move.label := henabled.2
  refine ⟨runs_step race move hruns, fun hafter => ?_⟩
  by_cases hset : move.label = .setStrongAuthStat
  · rw [hset] at hnext
    have hcomes := (hruns move.side).next _ hnext
    have hsetter : handlers move.side = .authSuccess := by
      cases hhandler : handlers move.side with
      | authSuccess => rfl
      | credChange renewal => simp [hhandler, Handler.comesTo] at hcomes
      | timerFired => exact absurd hhandler (hquiet _)
    rw [stepped_shared, Thread.step, hnext]
    simp [sections, setStrongAuthStat, (hruns move.side).reason hsetter]
  · have hflag : (races.step race move).shared.reasonFlag = race.shared.reasonFlag := by
      apply Thread.step_flag
      simpa [hnext] using hset
    rw [hflag]
    apply hcleared
    rcases Side.eq_or_other move.side side with rfl | rfl
    · simpa [hnext] using hset
    · rwa [stepped_other] at hafter

theorem cleared_run {account : AuthAccount} {clock : Int} {moves : List (Move AtomicStep)}
    (hauth : handlers side = .authSuccess)
    (hadmits : races.Admits (account.race handlers clock) moves)
    (hcomplete : (Thread.program sections).Complete
      (races.run (account.race handlers clock) moves)) :
    (races.run (account.race handlers clock) moves).shared.reasonFlag =
      StrongAuthReasonFlags.none := by
  have hstart : Cleared handlers side (account.race handlers clock) := by
    refine ⟨fun side => Thread.start_runs (handlers side), fun hnext => ?_⟩
    change (Thread.start (handlers side)).next ≠ _ at hnext
    rw [hauth] at hnext
    exact absurd rfl hnext
  have hdone : ((races.run (account.race handlers clock) moves).threads side).next = none :=
    hcomplete side
  apply (races.run_invariant (cleared_step hquiet) hadmits hstart).2
  rw [hdone]
  decide

end Cleared

section Complete

variable {account : AuthAccount} {clock : Int} {moves : List (Move AtomicStep)}
  (hauth : handlers side = .authSuccess)
  (hadmits : races.Admits (account.race handlers clock) moves)
  (hcomplete : (Thread.program sections).Complete (races.run (account.race handlers clock) moves))

include hcomplete

theorem hasRead_of_complete :
    ((races.run (account.race handlers clock) moves).threads side).HasRead := by
  have hdone : ((races.run (account.race handlers clock) moves).threads side).next = none :=
    hcomplete side
  refine ⟨?_, ?_, ?_⟩ <;> rw [hdone] <;> decide

include hauth hadmits

/-- The flag and the periods after a race in which somebody renews the timer. -/
theorem renewed_outcome :
    ∃ recorder starter, lastMover AtomicStep.records moves = some recorder ∧
      lastMover AtomicStep.starts moves = some starter ∧
      (handlers recorder).renews = true ∧ (handlers starter).renews = true ∧
      (races.run (account.race handlers clock) moves).shared.outcome =
        (some (races.run (account.race handlers clock) moves).shared.reasonFlag,
          some ((races.run (account.race handlers clock) moves).threads recorder).triggerPeriod,
          some ((races.run (account.race handlers clock) moves).threads
            starter).triggerPeriod) := by
  have hrenews : (handlers side).renews = true := by rw [hauth]; rfl
  obtain ⟨recorder, hrecorder, hrecords, hperiod⟩ := recorded_last hadmits hcomplete hrenews
  obtain ⟨starter, hstarter, hstarts, harmed⟩ := armed_last hadmits hcomplete hrenews
  refine ⟨recorder, starter, hrecorder, hstarter, hrecords, hstarts, ?_⟩
  unfold outcome
  rw [hperiod, harmed]

/-- Against a changed PIN: the first stage is recorded and armed, as a serial run
leaves it, exactly if the change writes both last or the reading finds the first
stage. -/
theorem auth_change_iff {renewal : PinRenewal}
    (hchange : handlers side.other = .credChange renewal) :
    (SerialOutcome handlers account clock (races.run (account.race handlers clock) moves).clock
        (races.run (account.race handlers clock) moves).shared.outcome ∧
      (races.run (account.race handlers clock) moves).shared.outcome.2 =
        (some credChangeFirstStrongAuthTimeoutMs, some credChangeFirstStrongAuthTimeoutMs)) ↔
      OrderedFor side moves (handlers side.other) ∨
        races.Steps (FindsFor record (handlers side.other)) (account.race handlers clock)
          moves := by
  have hother : handlers side.other ≠ .authSuccess := by
    rw [hchange]
    exact fun hsame => Handler.noConfusion hsame
  have hquiet : ∀ side, handlers side ≠ .timerFired := by
    intro quiet
    rcases Side.eq_or_other side quiet with rfl | rfl
    · rw [hauth]; decide
    · rw [hchange]; simp
  have hclock : clock ≤ (races.run (account.race handlers clock) moves).clock :=
    (Thread.program sections).clock_le_of_admits hadmits
  have hflag := cleared_run hquiet hauth hadmits hcomplete
  obtain ⟨recorder, starter, hrecorder, hstarter, _, _, houtcome⟩ :=
    renewed_outcome hauth hadmits hcomplete
  obtain ⟨_, info, currentTime, _, hperiod, hsteps, _⟩ :=
    (races.run_invariant_past (readOnce_start hauth account clock)
      (readOnce_step hauth hother) hadmits).read (hasRead_of_complete hcomplete)
  have hchanged : ((races.run (account.race handlers clock) moves).threads side.other).triggerPeriod
      = credChangeFirstStrongAuthTimeoutMs :=
    (runs_run hadmits side.other).period hother (by rw [hchange]; rfl)
  -- a writer leaves the first stage if it is the change, or has read the first stage
  have hwriter : ∀ writer,
      ((races.run (account.race handlers clock) moves).threads writer).triggerPeriod =
        credChangeFirstStrongAuthTimeoutMs ↔ writer = side.other ∨
          races.Steps (FindsFor record (handlers side.other)) (account.race handlers clock)
            moves := by
    intro writer
    rcases Side.eq_or_other side writer with rfl | rfl
    · rw [hperiod, hsteps, hchange, TimerInfo.advance_first_iff]
      exact (or_iff_right (Side.other_ne writer).symm).symm
    · rw [hchanged]
      simp
  have hserial : SerialOutcome handlers account clock _ _ :=
    serialOutcome_of_moments side (Int.le_refl clock) (Int.le_refl clock) hclock
  rw [hauth, hchange, outcome_credChange, handle_authSuccess_flag] at hserial
  rw [houtcome, hflag]
  constructor
  · rintro ⟨_, hrenewed⟩
    obtain ⟨hrecorded, harmed⟩ := Prod.mk.inj hrenewed
    rcases (hwriter recorder).mp (Option.some.inj hrecorded) with hlast | hfound
    · rcases (hwriter starter).mp (Option.some.inj harmed) with hlast' | hfound
      · rw [hchange]
        exact Or.inl ⟨by rw [hrecorder, hlast], by rw [hstarter, hlast']⟩
      · exact Or.inr hfound
    · exact Or.inr hfound
  · intro hharmless
    have hfirst : ∀ writer, (lastMover AtomicStep.records moves = some writer ∨
        lastMover AtomicStep.starts moves = some writer) →
        ((races.run (account.race handlers clock) moves).threads writer).triggerPeriod =
          credChangeFirstStrongAuthTimeoutMs := by
      intro writer hlast
      apply (hwriter writer).mpr
      rcases hharmless with hordered | hfound
      · rw [hchange] at hordered
        rcases hlast with hlast | hlast
        · exact Or.inl (Option.some.inj (hlast.symm.trans hordered.1))
        · exact Or.inl (Option.some.inj (hlast.symm.trans hordered.2))
      · exact Or.inr hfound
    rw [hfirst recorder (Or.inl hrecorder), hfirst starter (Or.inr hstarter)]
    exact ⟨hserial, rfl⟩

/-- Against another successful authentication: the race is serializable exactly if
one side writes both last or the second reading finds the stage not over. -/
theorem auth_auth_iff (hother : handlers side.other = .authSuccess) :
    SerialOutcome handlers account clock (races.run (account.race handlers clock) moves).clock
        (races.run (account.race handlers clock) moves).shared.outcome ↔
      OrderedFor side moves (handlers side.other) ∨
        races.Steps (FindsFor record (handlers side.other)) (account.race handlers clock)
          moves := by
  have hboth : ∀ either, handlers either = .authSuccess := by
    intro either
    rcases Side.eq_or_other side either with rfl | rfl
    · exact hauth
    · exact hother
  have hquiet : ∀ either, handlers either ≠ .timerFired := by
    intro either
    rw [hboth]
    decide
  have hflag := cleared_run hquiet hauth hadmits hcomplete
  obtain ⟨recorder, starter, hrecorder, hstarter, _, _, houtcome⟩ :=
    renewed_outcome hauth hadmits hcomplete
  have hread := races.run_invariant_past (readTwice_start hboth account clock)
    (readTwice_step hboth) hadmits
  have hdone : ∀ either, ((races.run (account.race handlers clock) moves).threads either).HasRead :=
    fun either => hasRead_of_complete hcomplete
  rw [houtcome, hflag, hother]
  constructor
  · rintro ⟨first, bootTimeMs, _, hserial⟩
    unfold Sections.oneAfterTheOther at hserial
    rw [hboth, outcome_authSuccess] at hserial
    obtain ⟨hrecorded, harmed⟩ := Prod.mk.inj (Prod.mk.inj hserial).2
    have hsame : ((races.run (account.race handlers clock) moves).threads recorder).triggerPeriod =
        ((races.run (account.race handlers clock) moves).threads starter).triggerPeriod :=
      Option.some.inj (hrecorded.symm.trans harmed)
    rcases Side.eq_or_other recorder starter with rfl | rfl
    · exact Or.inl (by rw [OrderedFor, hrecorder, hstarter])
    · exact Or.inr ((hread.both recorder (hdone _) (hdone _)).mp hsame)
  · intro hharmless
    have hsame : ((races.run (account.race handlers clock) moves).threads recorder).triggerPeriod =
        ((races.run (account.race handlers clock) moves).threads starter).triggerPeriod := by
      rcases Side.eq_or_other recorder starter with rfl | rfl
      · rfl
      · rcases hharmless with hordered | hfound
        · rw [OrderedFor, hrecorder, hstarter] at hordered
          exact absurd (Option.some.inj hordered).symm (Side.other_ne recorder)
        · exact (hread.both recorder (hdone _) (hdone _)).mpr hfound
    obtain ⟨early, late, hearly, horder, hlate, hperiod⟩ := hread.attained recorder (hdone _)
    have hserial : SerialOutcome handlers account clock _ _ :=
      serialOutcome_of_moments side hearly horder hlate
    rw [hboth, hboth, outcome_authSuccess, handle_authSuccess_info] at hserial
    rw [← hsame, hperiod]
    exact hserial

end Complete

end Screenlock.AuthAccount
