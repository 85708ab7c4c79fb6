import Mathlib
import Screenlock.Foundation.Locking
import Screenlock.Foundation.Machine

/-! # Threads that share locks

Threads whose paths keep to an order of the locks never wait for each other in a
circle, and no two of them meet at a table. A thread that wants for writing the lock
that it holds for reading waits for itself.
-/

namespace Foundation

/-- A property that holds at one time and not at a later one is lost in between. -/
theorem exists_change (property : Nat → Prop) {first last : Nat} (hle : first ≤ last)
    (hfirst : property first) (hlast : ¬ property last) :
    ∃ time, first ≤ time ∧ time < last ∧ property time ∧ ¬ property (time + 1) := by
  induction last, hle using Nat.le_induction with
  | base => exact absurd hfirst hlast
  | succ last hle ih =>
      by_cases hbefore : property last
      · exact ⟨last, hle, Nat.lt_succ_self _, hbefore, hlast⟩
      · obtain ⟨time, hafter, hlt, hhere, hlost⟩ := ih hbefore
        exact ⟨time, hafter, Nat.lt_succ_of_lt hlt, hhere, hlost⟩

variable {ℓ τ : Type*}

/-- What a thread holds, an entry for each time it took the lock, and what it has
still to do. -/
structure LockThread (ℓ τ : Type*) where
  held : List (ℓ × LockMode)
  rest : List (LockStep ℓ τ)
  deriving DecidableEq, Repr

inductive PoolEvent (ℓ τ : Type*) where
  /-- A new thread begins the path. -/
  | start (path : List (LockStep ℓ τ))
  /-- The thread takes its next step. -/
  | run (thread : Nat)

namespace LockPool

variable (pool : List (LockThread ℓ τ))

def next (thread : Nat) : Option (LockStep ℓ τ) :=
  pool[thread]?.bind fun entry => entry.rest.head?

def Holds (thread : Nat) (lock : ℓ) (mode : LockMode) : Prop :=
  ∃ entry, pool[thread]? = some entry ∧ (lock, mode) ∈ entry.held

/-- No thread is left in the middle of its path. -/
def Idle : Prop := ∀ entry ∈ pool, entry.rest = [] ∧ entry.held = []

/-- The steps that are still to be taken. -/
def work : Nat := (pool.map fun entry => entry.rest.length).sum

variable [DecidableEq ℓ]

def advance (thread : Nat) : List (LockThread ℓ τ) :=
  match pool[thread]? with
  | some ⟨held, act :: rest⟩ => pool.set thread ⟨act.taken held, rest⟩
  | _ => pool

/-- A lock is there for a writer when no other thread holds it, and its own thread
only where it may take it again; for a reader when nobody has it for writing. What
is not held is not given back. -/
def Ready (order : LockOrder ℓ τ) (thread : Nat) : LockStep ℓ τ → Prop
  | .acquire lock .exclusive =>
      (∀ other mode, other ≠ thread → ¬ Holds pool other lock mode) ∧
        (Holds pool thread lock .exclusive → order.recursive lock = true) ∧
        ¬ Holds pool thread lock .shared
  | .acquire lock .shared => ∀ other, ¬ Holds pool other lock .exclusive
  | .release lock mode => Holds pool thread lock mode
  | .access _ => True

section Decidable

variable {pool}

omit [DecidableEq ℓ] in
theorem lt_length_of_holds {thread : Nat} {lock : ℓ} {mode : LockMode}
    (hholds : Holds pool thread lock mode) : thread < pool.length := by
  obtain ⟨entry, hentry, -⟩ := hholds
  exact (List.getElem?_eq_some_iff.mp hentry).1

instance decidableHolds (thread : Nat) (lock : ℓ) (mode : LockMode) :
    Decidable (Holds pool thread lock mode) :=
  match hentry : pool[thread]? with
  | none => .isFalse (by simp [Holds, hentry])
  | some entry =>
      decidable_of_iff (entry.held.any (fun taken => taken.1 = lock ∧ taken.2 = mode) = true)
        (by simp [Holds, hentry])

omit [DecidableEq ℓ] in
/-- Nobody outside the pool holds anything. -/
theorem free_iff {thread : Nat} {lock : ℓ} {mode : LockMode} :
    (∀ other < pool.length, other ≠ thread → ¬ Holds pool other lock mode) ↔
      ∀ other, other ≠ thread → ¬ Holds pool other lock mode :=
  ⟨fun hin other hne hholds => hin other (lt_length_of_holds hholds) hne hholds,
    fun hall other _ => hall other⟩

instance decidableReady (order : LockOrder ℓ τ) (thread : Nat) :
    ∀ act : LockStep ℓ τ, Decidable (Ready pool order thread act)
  | .acquire lock .exclusive =>
      decidable_of_iff
        (((∀ other < pool.length, other ≠ thread → ¬ Holds pool other lock .exclusive) ∧
            ∀ other < pool.length, other ≠ thread → ¬ Holds pool other lock .shared) ∧
          (Holds pool thread lock .exclusive → order.recursive lock = true) ∧
            ¬ Holds pool thread lock .shared) <| by
        rw [free_iff, free_iff]
        refine and_congr_left fun _ => ⟨fun ⟨hexclusive, hshared⟩ other mode hne => ?_,
          fun hall => ⟨fun other => hall other .exclusive, fun other => hall other .shared⟩⟩
        cases mode with
        | exclusive => exact hexclusive other hne
        | shared => exact hshared other hne
  | .acquire lock .shared =>
      decidable_of_iff (∀ other < pool.length, ¬ Holds pool other lock .exclusive)
        ⟨fun hin other hholds => hin other (lt_length_of_holds hholds) hholds,
          fun hall other _ => hall other⟩
  | .release lock mode => inferInstanceAs (Decidable (Holds pool thread lock mode))
  | .access _ => .isTrue trivial

end Decidable

/-- Threads begin one of the given paths and take their steps in any order. -/
def machine (order : LockOrder ℓ τ) (entry : List (LockStep ℓ τ) → Prop) :
    Machine (List (LockThread ℓ τ)) (PoolEvent ℓ τ) where
  enabled pool
    | .start path => entry path
    | .run thread => ∃ act, next pool thread = some act ∧ Ready pool order thread act
  step pool
    | .start path => pool ++ [⟨[], path⟩]
    | .run thread => advance pool thread

/-- A lock that is held for writing has no other holder. -/
def Exclusive : Prop :=
  ∀ thread other lock mode, Holds pool thread lock .exclusive → Holds pool other lock mode →
    thread = other

/-- Every thread keeps to the order. -/
structure Orderly (order : LockOrder ℓ τ) : Prop where
  follows : ∀ entry ∈ pool, LockCode.follow order.after entry.held entry.rest = some []
  exclusive : Exclusive pool

section Steps

variable {pool} {thread : Nat} {act : LockStep ℓ τ} {order : LockOrder ℓ τ}

omit [DecidableEq ℓ] in
theorem next_eq_some (hnext : next pool thread = some act) :
    ∃ held rest, pool[thread]? = some ⟨held, act :: rest⟩ := by
  obtain ⟨⟨held, rest⟩, hentry, hhead⟩ := Option.bind_eq_some_iff.mp hnext
  obtain ⟨tail, rfl⟩ := List.head?_eq_some_iff.mp hhead
  exact ⟨held, tail, hentry⟩

omit [DecidableEq ℓ] in
theorem next_of_entry {held : List (ℓ × LockMode)} {rest : List (LockStep ℓ τ)}
    (hentry : pool[thread]? = some ⟨held, act :: rest⟩) : next pool thread = some act := by
  simp [next, hentry]

omit [DecidableEq ℓ] in
theorem holds_iff_of_entry {held : List (ℓ × LockMode)} {rest : List (LockStep ℓ τ)}
    (hentry : pool[thread]? = some ⟨held, rest⟩) (lock : ℓ) (mode : LockMode) :
    Holds pool thread lock mode ↔ (lock, mode) ∈ held := by
  simp [Holds, hentry]

omit [DecidableEq ℓ] in
theorem holds_append_iff (path : List (LockStep ℓ τ)) (other : Nat) (lock : ℓ)
    (mode : LockMode) :
    Holds (pool ++ [⟨[], path⟩]) other lock mode ↔ Holds pool other lock mode := by
  unfold Holds
  rcases Nat.lt_trichotomy other pool.length with hlt | rfl | hgt
  · rw [List.getElem?_append_left hlt]
  · simp
  · rw [List.getElem?_eq_none (by simp; omega), List.getElem?_eq_none (by omega)]

theorem advance_of_entry {held : List (ℓ × LockMode)} {rest : List (LockStep ℓ τ)}
    (hentry : pool[thread]? = some ⟨held, act :: rest⟩) :
    advance pool thread = pool.set thread ⟨act.taken held, rest⟩ := by
  simp [advance, hentry]

theorem getElem?_advance_self {held : List (ℓ × LockMode)} {rest : List (LockStep ℓ τ)}
    (hentry : pool[thread]? = some ⟨held, act :: rest⟩) :
    (advance pool thread)[thread]? = some ⟨act.taken held, rest⟩ := by
  have hlt := (List.getElem?_eq_some_iff.mp hentry).1
  simp [advance_of_entry hentry, hlt]

theorem getElem?_advance_other {other : Nat} (hne : other ≠ thread) :
    (advance pool thread)[other]? = pool[other]? := by
  unfold advance
  split
  · exact List.getElem?_set_ne (Ne.symm hne)
  · rfl

theorem holds_advance_self {held : List (ℓ × LockMode)} {rest : List (LockStep ℓ τ)}
    (hentry : pool[thread]? = some ⟨held, act :: rest⟩) (lock : ℓ) (mode : LockMode) :
    Holds (advance pool thread) thread lock mode ↔ (lock, mode) ∈ act.taken held :=
  holds_iff_of_entry (getElem?_advance_self hentry) lock mode

theorem holds_advance_other {other : Nat} (hne : other ≠ thread) (lock : ℓ) (mode : LockMode) :
    Holds (advance pool thread) other lock mode ↔ Holds pool other lock mode := by
  simp only [Holds, getElem?_advance_other hne]

section Change

variable {entry : List (LockStep ℓ τ) → Prop} {event : PoolEvent ℓ τ} {lock : ℓ}
  {mode : LockMode}

theorem holds_step_of_not_holds (henabled : (machine order entry).enabled pool event)
    (hbefore : ¬ Holds pool thread lock mode)
    (hafter : Holds ((machine order entry).step pool event) thread lock mode) :
    event = .run thread ∧ next pool thread = some (.acquire lock mode) := by
  cases event with
  | start path => exact absurd ((holds_append_iff path thread lock mode).mp hafter) hbefore
  | run other =>
      by_cases hself : thread = other
      · subst hself
        obtain ⟨act, hnext, -⟩ := henabled
        obtain ⟨held, rest, hentry⟩ := next_eq_some hnext
        rw [holds_iff_of_entry hentry] at hbefore
        obtain rfl := LockStep.acquires_of_mem_taken
          ((holds_advance_self hentry lock mode).mp hafter) hbefore
        exact ⟨rfl, hnext⟩
      · exact absurd ((holds_advance_other hself lock mode).mp hafter) hbefore

theorem not_holds_step_of_holds (henabled : (machine order entry).enabled pool event)
    (hbefore : Holds pool thread lock mode)
    (hafter : ¬ Holds ((machine order entry).step pool event) thread lock mode) :
    event = .run thread ∧ next pool thread = some (.release lock mode) := by
  cases event with
  | start path => exact absurd ((holds_append_iff path thread lock mode).mpr hbefore) hafter
  | run other =>
      by_cases hself : thread = other
      · subst hself
        obtain ⟨act, hnext, -⟩ := henabled
        obtain ⟨held, rest, hentry⟩ := next_eq_some hnext
        rw [holds_iff_of_entry hentry] at hbefore
        have hlost := mt (holds_advance_self hentry lock mode).mpr hafter
        obtain rfl := LockStep.releases_of_not_mem_taken hbefore hlost
        exact ⟨rfl, hnext⟩
      · exact absurd ((holds_advance_other hself lock mode).mpr hbefore) hafter

end Change

end Steps

section Invariant

variable {pool} {order : LockOrder ℓ τ} {entry : List (LockStep ℓ τ) → Prop}

omit [DecidableEq ℓ] in
theorem not_holds_nil (thread : Nat) (lock : ℓ) (mode : LockMode) :
    ¬ Holds ([] : List (LockThread ℓ τ)) thread lock mode := by
  simp [Holds]

omit [DecidableEq ℓ] in
theorem exclusive_nil : Exclusive ([] : List (LockThread ℓ τ)) :=
  fun thread _ lock _ hholds _ => absurd hholds (not_holds_nil thread lock _)

theorem orderly_nil : Orderly ([] : List (LockThread ℓ τ)) order where
  follows := by simp
  exclusive := exclusive_nil

theorem Orderly.next {thread : Nat} {held : List (ℓ × LockMode)} {act : LockStep ℓ τ}
    {rest : List (LockStep ℓ τ)} (horderly : Orderly pool order)
    (hentry : pool[thread]? = some ⟨held, act :: rest⟩) :
    order.after held act = some (act.taken held) ∧
      LockCode.follow order.after (act.taken held) rest = some [] := by
  have hfollows := horderly.follows _ (List.mem_of_getElem? hentry)
  rw [LockCode.follow_cons] at hfollows
  obtain ⟨held', hafter, hrest⟩ := Option.bind_eq_some_iff.mp hfollows
  obtain rfl := LockOrder.taken_of_after hafter
  exact ⟨hafter, hrest⟩

omit [DecidableEq ℓ] in
/-- A lock is granted beside no writer, and to a writer beside nobody. -/
theorem exclusive_of_ready {thread other : Nat} {lock : ℓ} {mode otherMode : LockMode}
    (hready : Ready pool order thread (.acquire lock mode)) (hne : other ≠ thread)
    (hholds : Holds pool other lock otherMode) : mode = .shared ∧ otherMode = .shared := by
  cases mode with
  | exclusive => exact absurd hholds (hready.1 other otherMode hne)
  | shared =>
      cases otherMode with
      | exclusive => exact absurd hholds (hready other)
      | shared => exact ⟨rfl, rfl⟩

theorem exclusive_step (event : PoolEvent ℓ τ)
    (henabled : (machine order entry).enabled pool event) (hexclusive : Exclusive pool) :
    Exclusive ((machine order entry).step pool event) := by
  intro thread other lock mode hfirst hsecond
  by_contra hne
  -- one step takes one lock, so one of the two had it before and the other is granted it now
  by_cases hbefore : Holds pool thread lock .exclusive
  · by_cases hother : Holds pool other lock mode
    · exact hne (hexclusive _ _ lock mode hbefore hother)
    · obtain ⟨rfl, hnext⟩ := holds_step_of_not_holds henabled hother hsecond
      obtain ⟨act, hact, hready⟩ := henabled
      obtain rfl := Option.some.inj (hact.symm.trans hnext)
      cases (exclusive_of_ready hready hne hbefore).2
  · obtain ⟨rfl, hnext⟩ := holds_step_of_not_holds henabled hbefore hfirst
    obtain ⟨act, hact, hready⟩ := henabled
    obtain rfl := Option.some.inj (hact.symm.trans hnext)
    cases (exclusive_of_ready hready (Ne.symm hne)
      ((holds_advance_other (Ne.symm hne) lock mode).mp hsecond)).1

theorem orderly_step (hentry : ∀ path, entry path → LockCode.follow order.after [] path = some [])
    (event : PoolEvent ℓ τ) (henabled : (machine order entry).enabled pool event)
    (horderly : Orderly pool order) : Orderly ((machine order entry).step pool event) order := by
  refine ⟨?_, exclusive_step event henabled horderly.exclusive⟩
  cases event with
  | start path =>
      intro started hmem
      rcases List.mem_append.mp hmem with hold | hnew
      · exact horderly.follows started hold
      · rw [List.mem_singleton.mp hnew]
        exact hentry path henabled
  | run runner =>
      intro moved hmem
      obtain ⟨act, hnext, -⟩ := henabled
      obtain ⟨held, rest, hrunner⟩ := next_eq_some hnext
      change moved ∈ advance pool runner at hmem
      rw [advance_of_entry hrunner] at hmem
      rcases List.mem_or_eq_of_mem_set hmem with hold | rfl
      · exact horderly.follows moved hold
      · exact (horderly.next hrunner).2

end Invariant

section Progress

variable {pool} {order : LockOrder ℓ τ} {entry : List (LockStep ℓ τ) → Prop}

/-- The rank of the lock that a thread comes to next. -/
def wanted (order : LockOrder ℓ τ) (pool : List (LockThread ℓ τ)) (thread : Nat) : Nat :=
  match next pool thread with
  | some (.acquire lock _) => order.rank lock
  | _ => 0

end Progress

section Runs

variable {pool} {order : LockOrder ℓ τ} {entry : List (LockStep ℓ τ) → Prop}

theorem orderly_run (hentry : ∀ path, entry path → LockCode.follow order.after [] path = some [])
    {events : List (PoolEvent ℓ τ)} (hadmits : (machine order entry).Admits pool events)
    (hstart : Orderly pool order) : Orderly ((machine order entry).run pool events) order :=
  (machine order entry).run_invariant (fun _ event henabled horderly =>
    orderly_step hentry event henabled horderly) hadmits hstart

/-- The thread takes the step at that time of the run. -/
def Performs (order : LockOrder ℓ τ) (entry : List (LockStep ℓ τ) → Prop)
    (pool : List (LockThread ℓ τ)) (events : List (PoolEvent ℓ τ)) (time thread : Nat)
    (act : LockStep ℓ τ) : Prop :=
  events[time]? = some (.run thread) ∧
    next ((machine order entry).run pool (events.take time)) thread = some act

variable {events : List (PoolEvent ℓ τ)}

theorem enabled_at (hadmits : (machine order entry).Admits pool events) {time : Nat}
    {event : PoolEvent ℓ τ} (hevent : events[time]? = some event) :
    (machine order entry).enabled ((machine order entry).run pool (events.take time)) event ∧
      (machine order entry).run pool (events.take (time + 1)) =
        (machine order entry).step ((machine order entry).run pool (events.take time)) event := by
  obtain ⟨hlt, rfl⟩ := List.getElem?_eq_some_iff.mp hevent
  have hsplit : events.take (time + 1) = events.take time ++ [events[time]] := by simp
  refine ⟨?_, by rw [hsplit, Machine.run_concat]⟩
  have hprefix := hadmits
  rw [← List.take_append_drop (time + 1) events, Machine.Admits, Machine.steps_append, hsplit,
    Machine.steps_concat] at hprefix
  exact hprefix.1.2

theorem orderly_at (hentry : ∀ path, entry path → LockCode.follow order.after [] path = some [])
    (hadmits : (machine order entry).Admits pool events) (hstart : Orderly pool order)
    (time : Nat) : Orderly ((machine order entry).run pool (events.take time)) order := by
  refine orderly_run hentry ?_ hstart
  have hall := hadmits
  rw [← List.take_append_drop time events, Machine.Admits, Machine.steps_append] at hall
  exact hall.1

/-- Two threads that come to one table are kept apart: between the two accesses the
first gives the lock of the table back and then the second takes it. -/
theorem accesses_ordered (hentry : ∀ path, entry path → LockCode.follow order.after [] path = some [])
    (hadmits : (machine order entry).Admits pool events) (hstart : Orderly pool order)
    {table : τ} {first second firstThread secondThread : Nat} (hlt : first < second)
    (hne : firstThread ≠ secondThread)
    (hfirst : Performs order entry pool events first firstThread (.access table))
    (hsecond : Performs order entry pool events second secondThread (.access table)) :
    ∃ released acquired, first < released ∧ released < acquired ∧ acquired < second ∧
      Performs order entry pool events released firstThread
        (.release (order.guard table) .exclusive) ∧
      Performs order entry pool events acquired secondThread
        (.acquire (order.guard table) .exclusive) := by
  let lock := order.guard table
  let poolAt (time : Nat) := (machine order entry).run pool (events.take time)
  have horderly : ∀ time, Orderly (poolAt time) order := orderly_at hentry hadmits hstart
  have hguards : ∀ time thread, next (poolAt time) thread = some (.access table) →
      Holds (poolAt time) thread lock .exclusive := by
    intro time thread hnext
    obtain ⟨held, rest, hthread⟩ := next_eq_some hnext
    exact (holds_iff_of_entry hthread lock _).mpr
      (LockOrder.after_access_eq_some.mp ((horderly time).next hthread).1).1
  have hlong : second < events.length := (List.getElem?_eq_some_iff.mp hsecond.1).1
  have hheld := hguards first firstThread hfirst.2
  have hwanted := hguards second secondThread hsecond.2
  -- the first thread has lost the lock by the time of the second access
  obtain ⟨released, hafter, hbefore, hholds, hlost⟩ := exists_change
    (fun time => Holds (poolAt time) firstThread lock .exclusive)
    (Nat.le_of_lt hlt) hheld
    fun hboth => hne ((horderly second).exclusive _ _ lock _ hboth hwanted)
  obtain ⟨hreleaseEnabled, hreleaseStep⟩ := enabled_at hadmits
    (List.getElem?_eq_getElem (Nat.lt_trans hbefore hlong))
  obtain ⟨hreleaseEvent, hreleases⟩ := not_holds_step_of_holds hreleaseEnabled hholds
    (hreleaseStep ▸ hlost)
  -- and the second has taken it since
  obtain ⟨acquired, hsince, htaken, hfree, hgot⟩ := exists_change
    (fun time => ¬ Holds (poolAt time) secondThread lock .exclusive)
    (Nat.le_of_lt hbefore)
    (fun hboth => hne ((horderly released).exclusive _ _ lock _ hholds hboth))
    (not_not_intro hwanted)
  obtain ⟨hacquireEnabled, hacquireStep⟩ := enabled_at hadmits
    (List.getElem?_eq_getElem (Nat.lt_trans htaken hlong))
  obtain ⟨hacquireEvent, hacquires⟩ := holds_step_of_not_holds hacquireEnabled hfree
    (hacquireStep ▸ not_not.mp hgot)
  have hreleased : events[released]? = some (.run firstThread) := by
    rw [List.getElem?_eq_getElem (Nat.lt_trans hbefore hlong), hreleaseEvent]
  have hacquired : events[acquired]? = some (.run secondThread) := by
    rw [List.getElem?_eq_getElem (Nat.lt_trans htaken hlong), hacquireEvent]
  refine ⟨released, acquired, ?_, ?_, htaken, ⟨hreleased, hreleases⟩, ⟨hacquired, hacquires⟩⟩
  · refine Nat.lt_of_le_of_ne hafter fun heq => ?_
    subst heq
    cases Option.some.inj (hfirst.2.symm.trans hreleases)
  · refine Nat.lt_of_le_of_ne hsince fun heq => ?_
    subst heq
    exact hne (PoolEvent.run.inj (Option.some.inj (hreleased.symm.trans hacquired)))

end Runs

section Blocked

variable {pool} {order : LockOrder ℓ τ} {entry : List (LockStep ℓ τ) → Prop}
  {events : List (PoolEvent ℓ τ)}

theorem exclusive_run (hadmits : (machine order entry).Admits pool events)
    (hstart : Exclusive pool) : Exclusive ((machine order entry).run pool events) :=
  (machine order entry).run_invariant (fun _ event henabled hexclusive =>
    exclusive_step event henabled hexclusive) hadmits hstart

/-- The thread is on its way to the steps ahead, or has come to them. -/
def Approaches (pool : List (LockThread ℓ τ)) (thread : Nat) (start : List (ℓ × LockMode))
    (before ahead : List (LockStep ℓ τ)) : Prop :=
  ∃ past coming, before = past ++ coming ∧
    pool[thread]? = some ⟨LockStep.takenAlong start past, coming ++ ahead⟩

/-- A thread that comes to take for writing a lock that it has for reading stays
there. -/
theorem approaches_step {thread : Nat} {start : List (ℓ × LockMode)}
    {before after : List (LockStep ℓ τ)} {lock : ℓ}
    (hreads : (lock, .shared) ∈ LockStep.takenAlong start before) (event : PoolEvent ℓ τ)
    (henabled : (machine order entry).enabled pool event)
    (happroaches : Approaches pool thread start before (.acquire lock .exclusive :: after)) :
    Approaches ((machine order entry).step pool event) thread start before
      (.acquire lock .exclusive :: after) := by
  obtain ⟨past, coming, rfl, hentry⟩ := happroaches
  cases event with
  | start path =>
      have hlt := (List.getElem?_eq_some_iff.mp hentry).1
      exact ⟨past, coming, rfl, (List.getElem?_append_left hlt).trans hentry⟩
  | run runner =>
      by_cases hself : thread = runner
      · subst hself
        obtain ⟨act, hnext, hready⟩ := henabled
        cases coming with
        | nil =>
            obtain rfl := Option.some.inj ((next_of_entry hentry).symm.trans hnext)
            rw [List.append_nil] at hreads
            exact absurd ((holds_iff_of_entry hentry lock .shared).mpr hreads) hready.2.2
        | cons first coming =>
            refine ⟨past ++ [first], coming, by simp, ?_⟩
            rw [LockStep.takenAlong_append]
            exact getElem?_advance_self hentry
      · exact ⟨past, coming, rfl, (getElem?_advance_other hself).trans hentry⟩

theorem approaches_run {thread : Nat} {start : List (ℓ × LockMode)}
    {before after : List (LockStep ℓ τ)} {lock : ℓ}
    (hreads : (lock, .shared) ∈ LockStep.takenAlong start before)
    (hadmits : (machine order entry).Admits pool events)
    (hstart : Approaches pool thread start before (.acquire lock .exclusive :: after)) :
    Approaches ((machine order entry).run pool events) thread start before
      (.acquire lock .exclusive :: after) :=
  (machine order entry).run_invariant (fun _ event henabled happroaches =>
    approaches_step hreads event henabled happroaches) hadmits hstart

/-- It has not ended, and once it has come there what it holds is lost to the others. -/
theorem blocks_others {thread : Nat} {start : List (ℓ × LockMode)}
    {before after : List (LockStep ℓ τ)} {lock : ℓ}
    (hexclusive : Exclusive pool)
    (hreads : (lock, .shared) ∈ LockStep.takenAlong start before)
    (hcame : pool[thread]? =
      some ⟨LockStep.takenAlong start before, .acquire lock .exclusive :: after⟩)
    (hadmits : (machine order entry).Admits pool events) {kept : ℓ}
    (hkept : (kept, .exclusive) ∈ LockStep.takenAlong start before) {other : Nat}
    (hne : other ≠ thread) (mode : LockMode) :
    ¬ Holds ((machine order entry).run pool events) other kept mode := by
  have hhere : Approaches pool thread (LockStep.takenAlong start before) []
      (.acquire lock .exclusive :: after) := ⟨[], [], rfl, hcame⟩
  obtain ⟨past, coming, hsplit, hentry⟩ := approaches_run
    (by exact hreads) hadmits hhere
  obtain ⟨rfl, rfl⟩ := List.append_eq_nil_iff.mp hsplit.symm
  intro hholds
  exact hne (exclusive_run hadmits hexclusive thread other kept mode
    ((holds_iff_of_entry hentry kept .exclusive).mpr hkept) hholds).symm

end Blocked

end LockPool

end Foundation
