import Mathlib.Data.List.Nodup
import Mathlib.Data.Nat.Find
import Screenlock.Foundation.Machine

/-! # Queues completed by asynchronous batch tasks

Entries wait in a queue. A reported result submits a task if something waits
when it is reported; a task that runs later completes everything that waits
then, whatever was pushed in between. Tasks run in any order. Entries, tasks
and completions carry the time of the event they come from, which no step
reads except to name a task.
-/

namespace Foundation

/-- One entry answered by one run of one task. -/
structure Completion (α β : Type*) where
  entry : α
  pushedAt : Nat
  result : β
  reportedAt : Nat
  ranAt : Nat
  deriving DecidableEq

structure BatchQueue (α β : Type*) where
  clock : Nat
  pending : List (Nat × α)
  tasks : List (Nat × β)
  completed : List (Completion α β)

inductive QueueEvent (α β : Type*) where
  | push (entry : α)
  | report (result : β)
  | drain (reportedAt : Nat)
  | idle
  deriving DecidableEq

def QueueEvent.pushed {α β : Type*} : QueueEvent α β → List α
  | .push entry => [entry]
  | _ => []

namespace BatchQueue

variable {α β : Type*}

def empty : BatchQueue α β := ⟨0, [], [], []⟩

/-- Run a task: answer everything that waits, at the current time. -/
def complete (queue : BatchQueue α β) (reportedAt : Nat) (result : β) : BatchQueue α β :=
  { queue with
    pending := []
    tasks := queue.tasks.filter (fun task => task.1 ≠ reportedAt)
    completed := queue.completed ++ queue.pending.map fun waiting =>
      ⟨waiting.2, waiting.1, result, reportedAt, queue.clock⟩ }

def step (queue : BatchQueue α β) (event : QueueEvent α β) : BatchQueue α β :=
  let next := match event with
    | .push entry => { queue with pending := queue.pending ++ [(queue.clock, entry)] }
    | .report result =>
        if queue.pending = [] then queue
        else { queue with tasks := queue.tasks ++ [(queue.clock, result)] }
    | .drain reportedAt =>
        match queue.tasks.lookup reportedAt with
        | none => queue
        | some result => queue.complete reportedAt result
    | .idle => queue
  { next with clock := queue.clock + 1 }

/-- Nothing is ever taken back. -/
theorem completed_prefix (queue : BatchQueue α β) (event : QueueEvent α β) :
    queue.completed <+: (queue.step event).completed := by
  cases event with
  | push entry => exact List.prefix_rfl
  | report result =>
      unfold step
      by_cases hnone : queue.pending = [] <;> simp [hnone]
  | drain reportedAt =>
      unfold step
      cases hlookup : queue.tasks.lookup reportedAt with
      | none => simp [hlookup]
      | some result => simp [hlookup, complete]
  | idle => exact List.prefix_rfl

/-- What waits, and what is pushed, is completed by the step or waits on. -/
theorem step_conserves (queue : BatchQueue α β) (event : QueueEvent α β) :
    ((queue.step event).completed.drop queue.completed.length).map Completion.entry ++
        (queue.step event).pending.map Prod.snd =
      queue.pending.map Prod.snd ++ event.pushed := by
  cases event with
  | push entry => simp [step, QueueEvent.pushed]
  | report result =>
      unfold step
      by_cases hnone : queue.pending = [] <;> simp [hnone, QueueEvent.pushed]
  | drain reportedAt =>
      unfold step
      cases hlookup : queue.tasks.lookup reportedAt with
      | none => simp [hlookup, QueueEvent.pushed]
      | some result => simp [hlookup, complete, QueueEvent.pushed, Function.comp_def]
  | idle => simp [step, QueueEvent.pushed]

/-- The entries that are completed and then those that wait. -/
def entries (queue : BatchQueue α β) : List α :=
  queue.completed.map Completion.entry ++ queue.pending.map Prod.snd

/-- Entries are completed in the order in which they are pushed. -/
theorem entries_step (queue : BatchQueue α β) (event : QueueEvent α β) :
    (queue.step event).entries = queue.entries ++ event.pushed := by
  obtain ⟨done, hdone⟩ := queue.completed_prefix event
  have hstep := queue.step_conserves event
  rw [← hdone, List.drop_left] at hstep
  rw [entries, entries, ← hdone, List.map_append, List.append_assoc, List.append_assoc, hstep]

/-- Something waits, and no task that has been submitted would complete it. -/
def Unanswered (queue : BatchQueue α β) : Prop :=
  queue.pending ≠ [] ∧ queue.tasks = []

/-- What waits unanswered has just been pushed, or has waited so and is not reported on. -/
theorem unanswered_step {queue : BatchQueue α β} {event : QueueEvent α β}
    (hunanswered : (queue.step event).Unanswered) :
    event.pushed ≠ [] ∨ queue.Unanswered ∧ ∀ result, event ≠ .report result := by
  cases event with
  | push entry => exact Or.inl (List.cons_ne_nil _ _)
  | report result =>
      unfold Unanswered step at hunanswered
      by_cases hnone : queue.pending = [] <;> simp [hnone] at hunanswered
  | drain reportedAt =>
      unfold Unanswered step at hunanswered
      cases hlookup : queue.tasks.lookup reportedAt with
      | none =>
          simp only [hlookup] at hunanswered
          exact Or.inr ⟨hunanswered, fun _ => by simp⟩
      | some result => simp [hlookup, complete] at hunanswered
  | idle => exact Or.inr ⟨hunanswered, fun _ => by simp⟩

/-- Only a task completes. -/
theorem completed_eq_of_ne_drain (queue : BatchQueue α β) {event : QueueEvent α β}
    (hruns : ∀ reportedAt, event ≠ .drain reportedAt) :
    (queue.step event).completed = queue.completed := by
  cases event with
  | push entry => rfl
  | report result =>
      unfold step
      by_cases hnone : queue.pending = [] <;> simp [hnone]
  | drain reportedAt => exact absurd rfl (hruns reportedAt)
  | idle => rfl

/-- Only submitted tasks run. -/
def machine : Machine (BatchQueue α β) (QueueEvent α β) where
  enabled queue event :=
    ∀ reportedAt, event = .drain reportedAt → ∃ result, (reportedAt, result) ∈ queue.tasks
  step := step

/-- No task runs between the two times. -/
def Undrained (events : List (QueueEvent α β)) (after before : Nat) : Prop :=
  ∀ time, after < time → time < before → ∀ reportedAt, events[time]? ≠ some (.drain reportedAt)

/-- The first task to run after a push is the one reported at `reportedAt`. -/
def FirstDrain (events : List (QueueEvent α β)) (pushedAt reportedAt ranAt : Nat) : Prop :=
  pushedAt < ranAt ∧ events[ranAt]? = some (.drain reportedAt) ∧ Undrained events pushedAt ranAt

theorem getElem?_concat_iff (events : List (QueueEvent α β)) (event other : QueueEvent α β)
    (time : Nat) :
    (events ++ [event])[time]? = some other ↔
      (time = events.length ∧ event = other) ∨ events[time]? = some other := by
  rcases Nat.lt_trichotomy time events.length with hlt | rfl | hgt
  · simp [List.getElem?_append_left hlt, Nat.ne_of_lt hlt]
  · simp
  · rw [List.getElem?_eq_none (by simp; omega), List.getElem?_eq_none (by omega)]
    simp [Nat.ne_of_gt hgt]

theorem undrained_concat_of_le (events : List (QueueEvent α β)) (event : QueueEvent α β)
    {after before : Nat} (hle : before ≤ events.length) :
    Undrained (events ++ [event]) after before ↔ Undrained events after before := by
  unfold Undrained
  refine forall_congr' fun time => imp_congr_right fun _ => imp_congr_right fun hbefore => ?_
  rw [List.getElem?_append_left (by omega)]

theorem undrained_concat (events : List (QueueEvent α β)) (event : QueueEvent α β) {after : Nat}
    (hlt : after < events.length) :
    Undrained (events ++ [event]) after (events.length + 1) ↔
      Undrained events after events.length ∧ ∀ reportedAt, event ≠ .drain reportedAt := by
  rw [← undrained_concat_of_le events event (Nat.le_refl _)]
  constructor
  · intro hall
    refine ⟨fun time hafter hbefore => hall time hafter (by omega), fun reportedAt heq => ?_⟩
    exact hall events.length hlt (Nat.lt_succ_self _) reportedAt
      ((getElem?_concat_iff _ _ _ _).mpr (Or.inl ⟨rfl, heq⟩))
  · rintro ⟨hold, hlast⟩ time hafter hbefore reportedAt hdrain
    rcases (getElem?_concat_iff _ _ _ _).mp hdrain with ⟨_, heq⟩ | hearlier
    · exact hlast reportedAt heq
    · have hlt' := (List.getElem?_eq_some_iff.mp hearlier).1
      exact hold time hafter hlt' reportedAt hdrain

theorem firstDrain_concat (events : List (QueueEvent α β)) (event : QueueEvent α β)
    (pushedAt reportedAt ranAt : Nat) :
    FirstDrain (events ++ [event]) pushedAt reportedAt ranAt ↔
      FirstDrain events pushedAt reportedAt ranAt ∨
        (ranAt = events.length ∧ event = .drain reportedAt ∧ pushedAt < events.length ∧
          Undrained events pushedAt events.length) := by
  unfold FirstDrain
  rw [getElem?_concat_iff]
  constructor
  · rintro ⟨hlt, ⟨rfl, heq⟩ | hdrain, hclear⟩
    · exact Or.inr ⟨rfl, heq, hlt, (undrained_concat_of_le _ _ (Nat.le_refl _)).mp hclear⟩
    · have hle := Nat.le_of_lt (List.getElem?_eq_some_iff.mp hdrain).1
      exact Or.inl ⟨hlt, hdrain, (undrained_concat_of_le _ _ hle).mp hclear⟩
  · rintro (⟨hlt, hdrain, hclear⟩ | ⟨rfl, heq, hlt, hclear⟩)
    · have hle := Nat.le_of_lt (List.getElem?_eq_some_iff.mp hdrain).1
      exact ⟨hlt, Or.inr hdrain, (undrained_concat_of_le _ _ hle).mpr hclear⟩
    · exact ⟨hlt, Or.inl ⟨rfl, heq⟩, (undrained_concat_of_le _ _ (Nat.le_refl _)).mpr hclear⟩

/-- If some task runs after a push, one of them runs first. -/
theorem exists_firstDrain {events : List (QueueEvent α β)} {pushedAt before : Nat}
    (hdrained : ¬ Undrained events pushedAt before) :
    ∃ reportedAt ranAt, FirstDrain events pushedAt reportedAt ranAt := by
  classical
  have hex : ∃ time, pushedAt < time ∧ ∃ reportedAt, events[time]? = some (.drain reportedAt) := by
    by_contra hnone
    refine hdrained fun time hafter _ reportedAt hdrain => hnone ⟨time, hafter, reportedAt, hdrain⟩
  obtain ⟨hlt, reportedAt, hdrain⟩ := Nat.find_spec hex
  refine ⟨reportedAt, Nat.find hex, hlt, hdrain, fun time hafter hbefore other hother => ?_⟩
  exact Nat.find_min hex hbefore ⟨hafter, other, hother⟩

/-- What the queue holds after the events, told by the events alone. -/
structure Explains (events : List (QueueEvent α β)) (queue : BatchQueue α β) : Prop where
  clock : queue.clock = events.length
  pending : ∀ pushedAt entry, (pushedAt, entry) ∈ queue.pending ↔
    events[pushedAt]? = some (.push entry) ∧ Undrained events pushedAt events.length
  submitted : ∀ reportedAt result, (reportedAt, result) ∈ queue.tasks →
    events[reportedAt]? = some (.report result)
  distinct : (queue.tasks.map Prod.fst).Nodup
  outstanding : ∀ pushedAt entry reportedAt result, (pushedAt, entry) ∈ queue.pending →
    pushedAt < reportedAt → events[reportedAt]? = some (.report result) →
      (reportedAt, result) ∈ queue.tasks
  named : ∀ time reportedAt : Nat, events[time]? = some (.drain reportedAt) →
    ∃ result, events[reportedAt]? = some (.report result)
  completed : ∀ done, done ∈ queue.completed ↔
    events[done.pushedAt]? = some (.push done.entry) ∧
      events[done.reportedAt]? = some (.report done.result) ∧
      FirstDrain events done.pushedAt done.reportedAt done.ranAt
  ordered : (queue.completed.map Completion.pushedAt ++
    queue.pending.map Prod.fst).Pairwise (· < ·)

theorem explains_empty : Explains [] (empty : BatchQueue α β) where
  clock := rfl
  pending := by simp [empty]
  submitted := by simp [empty]
  distinct := by simp [empty]
  outstanding := by simp [empty]
  named := by simp
  completed := by simp [empty]
  ordered := by simp [empty]

namespace Explains

variable {events : List (QueueEvent α β)} {queue : BatchQueue α β}

theorem task_lt (hexp : Explains events queue) {reportedAt : Nat} {result : β}
    (htask : (reportedAt, result) ∈ queue.tasks) : reportedAt < events.length :=
  (List.getElem?_eq_some_iff.mp (hexp.submitted _ _ htask)).1

theorem pushed_lt (hexp : Explains events queue) {pushedAt : Nat}
    (hmem : pushedAt ∈ queue.completed.map Completion.pushedAt ++ queue.pending.map Prod.fst) :
    pushedAt < events.length := by
  rcases List.mem_append.mp hmem with hdone | hwaits
  · obtain ⟨done, hanswered, rfl⟩ := List.mem_map.mp hdone
    exact (List.getElem?_eq_some_iff.mp ((hexp.completed done).mp hanswered).1).1
  · obtain ⟨⟨time, entry⟩, hqueued, rfl⟩ := List.mem_map.mp hwaits
    exact (List.getElem?_eq_some_iff.mp ((hexp.pending time entry).mp hqueued).1).1

/-- Completions speak of the past only, so an event that drains nothing keeps them. -/
theorem completed_concat (hexp : Explains events queue) {event : QueueEvent α β}
    (hdrain : ∀ reportedAt, event ≠ .drain reportedAt) (done : Completion α β) :
    done ∈ queue.completed ↔
      (events ++ [event])[done.pushedAt]? = some (.push done.entry) ∧
        (events ++ [event])[done.reportedAt]? = some (.report done.result) ∧
        FirstDrain (events ++ [event]) done.pushedAt done.reportedAt done.ranAt := by
  rw [hexp.completed, firstDrain_concat, getElem?_concat_iff, getElem?_concat_iff]
  constructor
  · rintro ⟨hpush, hreport, hfirst⟩
    exact ⟨Or.inr hpush, Or.inr hreport, Or.inl hfirst⟩
  · rintro ⟨hpush, hreport, hfirst | ⟨_, heq, _⟩⟩
    · have hran := (List.getElem?_eq_some_iff.mp hfirst.2.1).1
      have hpushed := hfirst.1
      obtain ⟨result, hnamed⟩ := hexp.named _ _ hfirst.2.1
      have hreported := (List.getElem?_eq_some_iff.mp hnamed).1
      exact ⟨hpush.resolve_left (by omega), hreport.resolve_left (by omega), hfirst⟩
    · exact absurd heq (hdrain _)

theorem named_concat (hexp : Explains events queue) {event : QueueEvent α β}
    (hdrain : ∀ reportedAt, event ≠ .drain reportedAt) (time reportedAt : Nat)
    (htime : (events ++ [event])[time]? = some (.drain reportedAt)) :
    ∃ result, (events ++ [event])[reportedAt]? = some (.report result) := by
  rcases (getElem?_concat_iff _ _ _ _).mp htime with ⟨_, heq⟩ | hearlier
  · exact absurd heq (hdrain _)
  · obtain ⟨result, hnamed⟩ := hexp.named _ _ hearlier
    exact ⟨result, (getElem?_concat_iff _ _ _ _).mpr (Or.inr hnamed)⟩

theorem push (hexp : Explains events queue) (entry : α) :
    Explains (events ++ [.push entry]) (queue.step (.push entry)) where
  clock := by simp [step, hexp.clock]
  pending := by
    intro pushedAt other
    simp only [step, List.mem_append, hexp.pending, List.mem_singleton, Prod.mk.injEq, hexp.clock,
      getElem?_concat_iff, List.length_append, List.length_cons, List.length_nil]
    constructor
    · rintro (⟨hpush, hclear⟩ | ⟨rfl, rfl⟩)
      · have hlt := (List.getElem?_eq_some_iff.mp hpush).1
        exact ⟨Or.inr hpush, (undrained_concat _ _ hlt).mpr ⟨hclear, by simp⟩⟩
      · exact ⟨Or.inl ⟨rfl, rfl⟩, fun time hafter hbefore => by omega⟩
    · rintro ⟨⟨rfl, heq⟩ | hpush, hclear⟩
      · exact Or.inr ⟨rfl, (QueueEvent.push.inj heq).symm⟩
      · have hlt := (List.getElem?_eq_some_iff.mp hpush).1
        exact Or.inl ⟨hpush, ((undrained_concat _ _ hlt).mp hclear).1⟩
  submitted := by
    intro reportedAt result htask
    exact (getElem?_concat_iff _ _ _ _).mpr (Or.inr (hexp.submitted _ _ htask))
  distinct := hexp.distinct
  outstanding := by
    intro pushedAt other reportedAt result hwaits hlt hreport
    have hearlier := ((getElem?_concat_iff _ _ _ _).mp hreport).resolve_left (by simp)
    rcases List.mem_append.mp hwaits with hold | hnew
    · exact hexp.outstanding _ _ _ _ hold hlt hearlier
    · -- nothing has been reported since the entry came
      have hpushed : pushedAt = events.length := by
        simpa [hexp.clock] using congrArg Prod.fst (List.mem_singleton.mp hnew)
      have hreported := (List.getElem?_eq_some_iff.mp hearlier).1
      omega
  named := hexp.named_concat (by simp)
  completed := hexp.completed_concat (by simp)
  ordered := by
    simp only [step, List.map_append, List.map_cons, List.map_nil, ← List.append_assoc]
    refine List.pairwise_append.mpr ⟨hexp.ordered, List.pairwise_singleton _ _, ?_⟩
    intro earlier hearlier latest hlatest
    rw [List.mem_singleton.mp hlatest, hexp.clock]
    exact hexp.pushed_lt hearlier

/-- An event that neither pushes nor drains leaves the waiting entries as they are. -/
theorem pending_concat (hexp : Explains events queue) {event : QueueEvent α β}
    (hpush : ∀ entry, event ≠ .push entry) (hdrain : ∀ reportedAt, event ≠ .drain reportedAt)
    (pushedAt : Nat) (entry : α) :
    (pushedAt, entry) ∈ queue.pending ↔
      (events ++ [event])[pushedAt]? = some (.push entry) ∧
        Undrained (events ++ [event]) pushedAt (events ++ [event]).length := by
  rw [hexp.pending, getElem?_concat_iff, List.length_append, List.length_singleton]
  constructor
  · rintro ⟨hpushed, hclear⟩
    have hlt := (List.getElem?_eq_some_iff.mp hpushed).1
    exact ⟨Or.inr hpushed, (undrained_concat _ _ hlt).mpr ⟨hclear, hdrain⟩⟩
  · rintro ⟨⟨_, heq⟩ | hpushed, hclear⟩
    · exact absurd heq (hpush _)
    · have hlt := (List.getElem?_eq_some_iff.mp hpushed).1
      exact ⟨hpushed, ((undrained_concat _ _ hlt).mp hclear).1⟩

theorem idle (hexp : Explains events queue) :
    Explains (events ++ [.idle]) (queue.step .idle) where
  clock := by simp [step, hexp.clock]
  pending := hexp.pending_concat (by simp) (by simp)
  submitted := by
    intro reportedAt result htask
    exact (getElem?_concat_iff _ _ _ _).mpr (Or.inr (hexp.submitted _ _ htask))
  distinct := hexp.distinct
  outstanding := by
    intro pushedAt entry reportedAt result hwaits hlt hreport
    have hearlier := ((getElem?_concat_iff _ _ _ _).mp hreport).resolve_left (by simp)
    exact hexp.outstanding _ _ _ _ hwaits hlt hearlier
  named := hexp.named_concat (by simp)
  completed := hexp.completed_concat (by simp)
  ordered := hexp.ordered

theorem report (hexp : Explains events queue) (result : β) :
    Explains (events ++ [.report result]) (queue.step (.report result)) := by
  have hkept : ∀ reportedAt other, (reportedAt, other) ∈ queue.tasks →
      (events ++ [.report result])[reportedAt]? = some (.report other) := fun _ _ htask =>
    (getElem?_concat_iff _ _ _ _).mpr (Or.inr (hexp.submitted _ _ htask))
  by_cases hempty : queue.pending = []
  · have hstep : queue.step (.report result) = { queue with clock := queue.clock + 1 } := by
      simp [step, hempty]
    rw [hstep]
    exact {
      clock := by simp [hexp.clock]
      pending := hexp.pending_concat (by simp) (by simp)
      submitted := hkept
      distinct := hexp.distinct
      outstanding := by simp [hempty]
      named := hexp.named_concat (by simp)
      completed := hexp.completed_concat (by simp)
      ordered := hexp.ordered }
  · have hstep : queue.step (.report result) =
        { queue with
          tasks := queue.tasks ++ [(queue.clock, result)]
          clock := queue.clock + 1 } := by
      simp [step, hempty]
    rw [hstep]
    exact {
      clock := by simp [hexp.clock]
      pending := hexp.pending_concat (by simp) (by simp)
      submitted := by
        intro reportedAt other htask
        rcases List.mem_append.mp htask with hold | hnew
        · exact hkept _ _ hold
        · obtain ⟨rfl, rfl⟩ := Prod.mk.inj (List.mem_singleton.mp hnew)
          exact (getElem?_concat_iff _ _ _ _).mpr (Or.inl ⟨hexp.clock, rfl⟩)
      distinct := by
        simp only [List.map_append, List.map_cons, List.map_nil]
        refine List.nodup_append.mpr ⟨hexp.distinct, by simp, ?_⟩
        rintro time hold _ hnew rfl
        obtain ⟨⟨_, other⟩, htask, rfl⟩ := List.mem_map.mp hold
        have hlt := hexp.task_lt htask
        simp only [List.mem_singleton, hexp.clock] at hnew
        omega
      outstanding := by
        intro pushedAt entry reportedAt other hwaits hlt hreport
        rcases (getElem?_concat_iff _ _ _ _).mp hreport with ⟨rfl, heq⟩ | hearlier
        · obtain rfl := QueueEvent.report.inj heq
          simp [hexp.clock]
        · exact List.mem_append_left _ (hexp.outstanding _ _ _ _ hwaits hlt hearlier)
      named := hexp.named_concat (by simp)
      completed := hexp.completed_concat (by simp)
      ordered := hexp.ordered }

theorem lookup_task (hexp : Explains events queue) {reportedAt : Nat} {result : β}
    (htask : (reportedAt, result) ∈ queue.tasks) :
    queue.tasks.lookup reportedAt = some result := by
  obtain ⟨before, after, hsplit⟩ := List.append_of_mem htask
  have hdistinct := hexp.distinct
  rw [hsplit] at hdistinct ⊢
  refine List.lookup_eq_some_iff.mpr ⟨before, after, rfl, fun other hother => ?_⟩
  simp only [List.map_append, List.map_cons] at hdistinct
  have hne := (List.nodup_append.mp hdistinct).2.2 other.1 (List.mem_map_of_mem hother) reportedAt
    List.mem_cons_self
  simpa using Ne.symm hne

theorem drain (hexp : Explains events queue) {reportedAt : Nat} {result : β}
    (htask : (reportedAt, result) ∈ queue.tasks) :
    Explains (events ++ [.drain reportedAt]) (queue.step (.drain reportedAt)) := by
  have hstep : queue.step (.drain reportedAt) =
      { queue.complete reportedAt result with clock := queue.clock + 1 } := by
    simp [step, hexp.lookup_task htask]
  have hreported := hexp.submitted _ _ htask
  rw [hstep]
  exact {
    clock := by simp [hexp.clock]
    pending := by
      intro pushedAt entry
      simp only [complete, List.not_mem_nil, getElem?_concat_iff, List.length_append,
        List.length_singleton, false_iff, not_and]
      rintro (⟨_, heq⟩ | hpush) hclear
      · simp at heq
      · -- an entry still waiting would have to have been pushed after this task ran
        have hlt := (List.getElem?_eq_some_iff.mp hpush).1
        exact ((undrained_concat _ _ hlt).mp hclear).2 reportedAt rfl
    submitted := by
      intro time other hother
      have hold := List.mem_of_mem_filter hother
      exact (getElem?_concat_iff _ _ _ _).mpr (Or.inr (hexp.submitted _ _ hold))
    distinct := (List.filter_sublist.map Prod.fst).nodup hexp.distinct
    outstanding := by simp [complete]
    named := by
      intro time other htime
      rcases (getElem?_concat_iff _ _ _ _).mp htime with ⟨_, heq⟩ | hearlier
      · obtain rfl := QueueEvent.drain.inj heq
        exact ⟨result, (getElem?_concat_iff _ _ _ _).mpr (Or.inr hreported)⟩
      · obtain ⟨named, hnamed⟩ := hexp.named _ _ hearlier
        exact ⟨named, (getElem?_concat_iff _ _ _ _).mpr (Or.inr hnamed)⟩
    completed := by
      intro done
      simp only [complete, List.mem_append, hexp.completed, List.mem_map, getElem?_concat_iff,
        firstDrain_concat, reduceCtorEq, and_false, false_or]
      constructor
      · rintro (⟨hpush, hreport, hfirst⟩ | ⟨⟨pushedAt, entry⟩, hwaits, rfl⟩)
        · exact ⟨hpush, hreport, Or.inl hfirst⟩
        · obtain ⟨hpush, hclear⟩ := (hexp.pending pushedAt entry).mp hwaits
          have hlt := (List.getElem?_eq_some_iff.mp hpush).1
          exact ⟨hpush, hreported, Or.inr ⟨hexp.clock, rfl, hlt, hclear⟩⟩
      · rintro ⟨hpush, hreport, hfirst | ⟨hran, heq, _, hclear⟩⟩
        · exact Or.inl ⟨hpush, hreport, hfirst⟩
        · refine Or.inr ⟨(done.pushedAt, done.entry), (hexp.pending _ _).mpr ⟨hpush, hclear⟩, ?_⟩
          obtain rfl := QueueEvent.drain.inj heq
          obtain rfl := QueueEvent.report.inj (Option.some.inj (hreported.symm.trans hreport))
          rw [hexp.clock, ← hran]
    ordered := by
      simpa [complete, Function.comp_def] using hexp.ordered }

theorem step (hexp : Explains events queue) {event : QueueEvent α β}
    (henabled : machine.enabled queue event) :
    Explains (events ++ [event]) (queue.step event) := by
  cases event with
  | push entry => exact hexp.push entry
  | report result => exact hexp.report result
  | drain reportedAt =>
      obtain ⟨result, htask⟩ := henabled reportedAt rfl
      exact hexp.drain htask
  | idle => exact hexp.idle

end Explains

/-- The queue after any admitted schedule is explained by the schedule. -/
theorem explains_run {events : List (QueueEvent α β)} (hadmits : machine.Admits empty events) :
    Explains events (machine.run empty events) := by
  induction events using List.reverseRecOn with
  | nil => exact explains_empty
  | append_singleton events event ih =>
      obtain ⟨hbefore, henabled⟩ := (machine.steps_concat _ _ _ _).mp hadmits
      rw [machine.run_concat]
      exact (ih hbefore).step henabled

section Schedule

variable {events : List (QueueEvent α β)} (hadmits : machine.Admits empty events)

include hadmits

/-- Every entry is answered by the first task that runs after its push, and by
no other: completions are exactly these pairs. -/
theorem mem_completed_iff (done : Completion α β) :
    done ∈ (machine.run empty events).completed ↔
      events[done.pushedAt]? = some (.push done.entry) ∧
        events[done.reportedAt]? = some (.report done.result) ∧
        FirstDrain events done.pushedAt done.reportedAt done.ranAt :=
  (explains_run hadmits).completed done

/-- A task that runs was reported before. -/
theorem reported_of_drain {time reportedAt : Nat}
    (hdrain : events[time]? = some (.drain reportedAt)) :
    reportedAt < time ∧ ∃ result, events[reportedAt]? = some (.report result) := by
  obtain ⟨hlt, hevent⟩ := List.getElem?_eq_some_iff.mp hdrain
  have hsplit : events = events.take time ++ .drain reportedAt :: events.drop (time + 1) := by
    rw [← hevent, ← List.drop_eq_getElem_cons hlt, List.take_append_drop]
  rw [hsplit] at hadmits
  obtain ⟨hbefore, henabled, _⟩ := (machine.steps_append _ _ _ _).mp hadmits
  obtain ⟨result, htask⟩ := henabled reportedAt rfl
  have hexp := explains_run hbefore
  have hreported := hexp.task_lt htask
  rw [List.length_take, Nat.min_eq_left (Nat.le_of_lt hlt)] at hreported
  refine ⟨hreported, result, ?_⟩
  have hsubmitted := hexp.submitted _ _ htask
  rwa [List.getElem?_take_of_lt hreported] at hsubmitted

/-- No push is answered twice. -/
theorem completed_nodup :
    ((machine.run empty events).completed.map Completion.pushedAt).Nodup :=
  ((List.pairwise_append.mp (explains_run hadmits).ordered).1).imp Nat.ne_of_lt

/-- Once no task is outstanding, an entry pushed before a report is answered. -/
theorem completed_of_tasks_nil (hidle : (machine.run empty events).tasks = [])
    {pushedAt reportedAt : Nat} {entry : α} {result : β}
    (hpush : events[pushedAt]? = some (.push entry))
    (hreport : events[reportedAt]? = some (.report result)) (hlt : pushedAt < reportedAt) :
    ∃ done ∈ (machine.run empty events).completed, done.pushedAt = pushedAt := by
  have hexp := explains_run hadmits
  by_cases hclear : Undrained events pushedAt events.length
  · have hwaits := (hexp.pending pushedAt entry).mpr ⟨hpush, hclear⟩
    have htask := hexp.outstanding _ _ _ _ hwaits hlt hreport
    rw [hidle] at htask
    exact absurd htask (List.not_mem_nil)
  · obtain ⟨ranBy, ranAt, hfirst⟩ := exists_firstDrain hclear
    obtain ⟨answer, hnamed⟩ := hexp.named _ _ hfirst.2.1
    exact ⟨⟨entry, pushedAt, answer, ranBy, ranAt⟩,
      (hexp.completed _).mpr ⟨hpush, hnamed, hfirst⟩, rfl⟩

end Schedule

end BatchQueue

end Foundation
