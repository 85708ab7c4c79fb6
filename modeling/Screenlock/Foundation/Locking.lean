import Mathlib.Data.List.Basic

/-! # Codes that take locks

The locking of a function is a code whose branches and rounds are left open, so
that its paths include every path of the function. A code that takes its locks by
rising rank, gives back what it takes and comes to each table under the lock of the
table is found so by a check.
-/

namespace Foundation

variable {ℓ τ : Type*}

/-- Several threads may hold one lock for reading, or one for writing. -/
inductive LockMode where
  | exclusive
  | shared
  deriving DecidableEq, Repr

inductive LockStep (ℓ τ : Type*) where
  | acquire (lock : ℓ) (mode : LockMode)
  | release (lock : ℓ) (mode : LockMode)
  | access (table : τ)
  deriving DecidableEq, Repr

namespace LockStep

variable [DecidableEq ℓ]

/-- What a step does to the locks of its thread, an entry for each time one was
taken. -/
def taken (held : List (ℓ × LockMode)) : LockStep ℓ τ → List (ℓ × LockMode)
  | .acquire lock mode => (lock, mode) :: held
  | .release lock mode => held.erase (lock, mode)
  | .access _ => held

def takenAlong (held : List (ℓ × LockMode)) (path : List (LockStep ℓ τ)) : List (ℓ × LockMode) :=
  path.foldl taken held

theorem takenAlong_append (held : List (ℓ × LockMode)) (first second : List (LockStep ℓ τ)) :
    takenAlong held (first ++ second) = takenAlong (takenAlong held first) second :=
  List.foldl_append

variable {act : LockStep ℓ τ} {lock : ℓ} {mode : LockMode} {held : List (ℓ × LockMode)}

/-- Only taking the lock makes a thread hold it. -/
theorem acquires_of_mem_taken (hmem : (lock, mode) ∈ act.taken held)
    (hnot : (lock, mode) ∉ held) : act = .acquire lock mode := by
  cases act with
  | acquire other otherMode =>
      obtain ⟨rfl, rfl⟩ := Prod.mk.inj ((List.mem_cons.mp hmem).resolve_right hnot)
      rfl
  | release other otherMode => exact absurd (List.mem_of_mem_erase hmem) hnot
  | access table => exact absurd hmem hnot

/-- Only giving the lock back ends its being held. -/
theorem releases_of_not_mem_taken (hmem : (lock, mode) ∈ held)
    (hnot : (lock, mode) ∉ act.taken held) : act = .release lock mode := by
  cases act with
  | acquire other otherMode => exact absurd (List.mem_cons_of_mem _ hmem) hnot
  | release other otherMode =>
      by_contra hne
      refine hnot ((List.mem_erase_of_ne fun heq => hne ?_).mpr hmem)
      obtain ⟨rfl, rfl⟩ := Prod.mk.inj heq
      rfl
  | access table => exact absurd hmem hnot

end LockStep

inductive LockCode (ℓ τ : Type*) where
  | skip
  | step (taken : LockStep ℓ τ)
  | seq (first second : LockCode ℓ τ)
  | either (first second : LockCode ℓ τ)
  | rounds (body : LockCode ℓ τ)
  deriving DecidableEq, Repr

namespace LockCode

/-- The steps of one execution, from the call to the return. -/
inductive Path : LockCode ℓ τ → List (LockStep ℓ τ) → Prop
  | skip : Path .skip []
  | step (taken : LockStep ℓ τ) : Path (.step taken) [taken]
  | seq {first second before after} (head : Path first before) (tail : Path second after) :
      Path (.seq first second) (before ++ after)
  | left {first path} (second) (chosen : Path first path) : Path (.either first second) path
  | right {second path} (first) (chosen : Path second path) : Path (.either first second) path
  | done (body) : Path (.rounds body) []
  | round {body before after} (head : Path body before) (tail : Path (.rounds body) after) :
      Path (.rounds body) (before ++ after)

def block (codes : List (LockCode ℓ τ)) : LockCode ℓ τ := codes.foldr seq skip

/-- A scope that begins by taking the lock and gives it back at its end. -/
def scope (lock : ℓ) (mode : LockMode) (codes : List (LockCode ℓ τ)) : LockCode ℓ τ :=
  seq (step (.acquire lock mode)) (seq (block codes) (step (.release lock mode)))

def guarded (lock : ℓ) (codes : List (LockCode ℓ τ)) : LockCode ℓ τ :=
  scope lock .exclusive codes

def read (table : τ) : LockCode ℓ τ := step (.access table)

def steps : LockCode ℓ τ → List (LockStep ℓ τ)
  | .skip => []
  | .step taken => [taken]
  | .seq first second | .either first second => first.steps ++ second.steps
  | .rounds body => body.steps

/-- The tables that the code comes to. -/
def tables (code : LockCode ℓ τ) : List τ :=
  code.steps.filterMap fun
    | .access table => some table
    | _ => none

/-- The locks that the code takes. -/
def locks (code : LockCode ℓ τ) : List ℓ :=
  code.steps.filterMap fun
    | .acquire lock _ => some lock
    | _ => none

theorem mem_locks {code : LockCode ℓ τ} {lock : ℓ} :
    lock ∈ code.locks ↔ ∃ mode, .acquire lock mode ∈ code.steps := by
  simp only [locks, List.mem_filterMap]
  constructor
  · rintro ⟨taken, hmem, hsome⟩
    cases taken with
    | acquire other mode => exact ⟨mode, Option.some.inj hsome ▸ hmem⟩
    | access | release => cases hsome
  · exact fun ⟨_, hmem⟩ => ⟨_, hmem, rfl⟩

section Check

variable {σ : Type*} (after : σ → LockStep ℓ τ → Option σ)

/-- The state after the steps, unless one of them is refused. -/
def follow (state : σ) (path : List (LockStep ℓ τ)) : Option σ := path.foldlM after state

theorem follow_cons (state : σ) (act : LockStep ℓ τ) (rest : List (LockStep ℓ τ)) :
    follow after state (act :: rest) =
      (after state act).bind fun next => follow after next rest := rfl

theorem follow_append (state : σ) (first second : List (LockStep ℓ τ)) :
    follow after state (first ++ second) =
      (follow after state first).bind fun middle => follow after middle second :=
  List.foldlM_append

variable [DecidableEq σ]

/-- The state after a code, when no path of it is refused and all agree on the state. -/
def check (state : σ) : LockCode ℓ τ → Option σ
  | .skip => some state
  | .step taken => after state taken
  | .seq first second => (check state first).bind fun middle => check middle second
  | .either first second =>
      (check state first).bind fun left =>
        (check state second).bind fun right => if left = right then some left else none
  | .rounds body => if check state body = some state then some state else none

variable {after}

theorem check_either_eq_some {state state' : σ} {first second : LockCode ℓ τ} :
    (either first second).check after state = some state' ↔
      first.check after state = some state' ∧ second.check after state = some state' := by
  constructor
  · intro hcheck
    obtain ⟨left, hfirst, hrest⟩ := Option.bind_eq_some_iff.mp hcheck
    obtain ⟨right, hsecond, hagree⟩ := Option.bind_eq_some_iff.mp hrest
    split at hagree
    next heq =>
      obtain rfl := Option.some.inj hagree
      exact ⟨hfirst, heq ▸ hsecond⟩
    next => cases hagree
  · rintro ⟨hfirst, hsecond⟩
    simp [check, hfirst, hsecond]

theorem check_rounds_eq_some {state state' : σ} {body : LockCode ℓ τ} :
    (rounds body).check after state = some state' ↔
      body.check after state = some state ∧ state' = state := by
  simp [check, eq_comm]

/-- What the check finds of a code holds of each of its paths. -/
theorem follow_of_check {code : LockCode ℓ τ} {path : List (LockStep ℓ τ)}
    (hpath : code.Path path) :
    ∀ {state state' : σ}, code.check after state = some state' →
      follow after state path = some state' := by
  induction hpath with
  | skip =>
      intro state state' hcheck
      exact hcheck
  | step taken =>
      intro state state' hcheck
      rw [follow_cons, show after state taken = some state' from hcheck]
      rfl
  | seq _ _ ihFirst ihSecond =>
      intro state state' hcheck
      obtain ⟨middle, hfirst, hsecond⟩ := Option.bind_eq_some_iff.mp hcheck
      rw [follow_append, ihFirst hfirst]
      exact ihSecond hsecond
  | left second _ ih =>
      intro state state' hcheck
      exact ih (check_either_eq_some.mp hcheck).1
  | right first _ ih =>
      intro state state' hcheck
      exact ih (check_either_eq_some.mp hcheck).2
  | done body =>
      intro state state' hcheck
      obtain ⟨-, rfl⟩ := check_rounds_eq_some.mp hcheck
      rfl
  | round _ _ ihBody ihRest =>
      intro state state' hcheck
      rw [follow_append, ihBody (check_rounds_eq_some.mp hcheck).1]
      exact ihRest hcheck

theorem check_block_cons {state : σ} {code : LockCode ℓ τ} {codes : List (LockCode ℓ τ)}
    (hhead : code.check after state = some state)
    (htail : (block codes).check after state = some state) :
    (block (code :: codes)).check after state = some state :=
  Option.bind_eq_some_iff.mpr ⟨state, hhead, htail⟩

theorem check_block_one {state : σ} {code : LockCode ℓ τ}
    (hcode : code.check after state = some state) :
    (block [code]).check after state = some state :=
  check_block_cons hcode rfl

end Check

end LockCode

/-- A rank for each lock, the locks that their holder may take again, and the
lock of each table. -/
structure LockOrder (ℓ τ : Type*) where
  rank : ℓ → Nat
  recursive : ℓ → Bool
  guard : τ → ℓ

namespace LockOrder

variable [DecidableEq ℓ] (order : LockOrder ℓ τ)

/-- A lock may be taken by one that holds only locks of lower rank, or by one that
may take it again. -/
def MayTake (held : List (ℓ × LockMode)) (lock : ℓ) (mode : LockMode) : Prop :=
  (mode = .exclusive ∧ (lock, .exclusive) ∈ held ∧ (lock, .shared) ∉ held ∧
      order.recursive lock = true) ∨
    ∀ other ∈ held, order.rank other.1 < order.rank lock

instance (held : List (ℓ × LockMode)) (lock : ℓ) (mode : LockMode) :
    Decidable (order.MayTake held lock mode) :=
  inferInstanceAs (Decidable (_ ∨ _))

/-- The locks held after one step that keeps to the order; `none` for one that
does not. -/
def after (held : List (ℓ × LockMode)) : LockStep ℓ τ → Option (List (ℓ × LockMode))
  | .acquire lock mode => if order.MayTake held lock mode then some ((lock, mode) :: held) else none
  | .release lock mode => if (lock, mode) ∈ held then some (held.erase (lock, mode)) else none
  | .access table => if (order.guard table, .exclusive) ∈ held then some held else none

section After

variable {order} {held held' : List (ℓ × LockMode)} {lock : ℓ} {mode : LockMode}

theorem after_acquire_eq_some :
    order.after held (.acquire lock mode : LockStep ℓ τ) = some held' ↔
      order.MayTake held lock mode ∧ held' = (lock, mode) :: held := by
  simp [after, eq_comm]

theorem after_release_eq_some :
    order.after held (.release lock mode : LockStep ℓ τ) = some held' ↔
      (lock, mode) ∈ held ∧ held' = held.erase (lock, mode) := by
  simp [after, eq_comm]

theorem after_access_eq_some {table : τ} :
    order.after held (.access table) = some held' ↔
      (order.guard table, .exclusive) ∈ held ∧ held' = held := by
  simp [after, eq_comm]

theorem taken_of_after {act : LockStep ℓ τ} (hafter : order.after held act = some held') :
    held' = act.taken held := by
  cases act with
  | acquire lock mode => exact (after_acquire_eq_some.mp hafter).2
  | release lock mode => exact (after_release_eq_some.mp hafter).2
  | access table => exact (after_access_eq_some.mp hafter).2

/-- Locks of lower rank than all that are taken make no difference. -/
theorem after_append {act : LockStep ℓ τ} {below : List (ℓ × LockMode)}
    (hafter : order.after held act = some held')
    (hbelow : ∀ lock mode, act = .acquire lock mode →
      ∀ other ∈ below, order.rank other.1 < order.rank lock) :
    order.after (held ++ below) act = some (held' ++ below) := by
  cases act with
  | acquire lock mode =>
      obtain ⟨hmay, rfl⟩ := after_acquire_eq_some.mp hafter
      refine after_acquire_eq_some.mpr ⟨?_, rfl⟩
      have hlower := hbelow lock mode rfl
      rcases hmay with ⟨hmode, hheld, hshared, hagain⟩ | hrising
      · refine Or.inl ⟨hmode, List.mem_append_left _ hheld, fun hmem => ?_, hagain⟩
        rcases List.mem_append.mp hmem with hmem | hmem
        · exact hshared hmem
        · exact absurd (hlower _ hmem) (Nat.lt_irrefl _)
      · refine Or.inr fun other hmem => ?_
        rcases List.mem_append.mp hmem with hmem | hmem
        · exact hrising other hmem
        · exact hlower other hmem
  | release lock mode =>
      obtain ⟨hmem, rfl⟩ := after_release_eq_some.mp hafter
      exact after_release_eq_some.mpr
        ⟨List.mem_append_left _ hmem, (List.erase_append_left _ hmem).symm⟩
  | access table =>
      obtain ⟨hmem, rfl⟩ := after_access_eq_some.mp hafter
      exact after_access_eq_some.mpr ⟨List.mem_append_left _ hmem, rfl⟩

end After

/-- A code that is in order is so inside a scope of lower locks. -/
theorem check_append {code : LockCode ℓ τ} {below : List (ℓ × LockMode)} :
    ∀ {held held' : List (ℓ × LockMode)}, code.check order.after held = some held' →
      (∀ lock ∈ code.locks, ∀ other ∈ below, order.rank other.1 < order.rank lock) →
      code.check order.after (held ++ below) = some (held' ++ below) := by
  induction code with
  | skip =>
      intro held held' hcheck _
      exact congrArg (fun locks => some (locks ++ below)) (Option.some.inj hcheck)
  | step taken =>
      intro held held' hcheck hbelow
      refine after_append hcheck fun lock mode heq other hother => ?_
      exact hbelow lock (LockCode.mem_locks.mpr ⟨mode, by simp [LockCode.steps, heq]⟩) other hother
  | seq first second ihFirst ihSecond =>
      intro held held' hcheck hbelow
      obtain ⟨middle, hfirst, hsecond⟩ := Option.bind_eq_some_iff.mp hcheck
      simp only [LockCode.locks, LockCode.steps, List.filterMap_append, List.mem_append] at hbelow
      exact Option.bind_eq_some_iff.mpr ⟨_, ihFirst hfirst fun lock hmem => hbelow lock (Or.inl hmem),
        ihSecond hsecond fun lock hmem => hbelow lock (Or.inr hmem)⟩
  | either first second ihFirst ihSecond =>
      intro held held' hcheck hbelow
      simp only [LockCode.locks, LockCode.steps, List.filterMap_append, List.mem_append] at hbelow
      obtain ⟨hfirst, hsecond⟩ := LockCode.check_either_eq_some.mp hcheck
      exact LockCode.check_either_eq_some.mpr
        ⟨ihFirst hfirst fun lock hmem => hbelow lock (Or.inl hmem),
          ihSecond hsecond fun lock hmem => hbelow lock (Or.inr hmem)⟩
  | rounds body ih =>
      intro held held' hcheck hbelow
      obtain ⟨hbody, rfl⟩ := LockCode.check_rounds_eq_some.mp hcheck
      exact LockCode.check_rounds_eq_some.mpr ⟨ih hbody hbelow, rfl⟩

section Keeps

/-! Codes that leave their thread with the locks it came with. -/

variable {held : List (ℓ × LockMode)}

theorem check_scope {lock : ℓ} {mode : LockMode} {codes : List (LockCode ℓ τ)}
    (hrising : ∀ other ∈ held, order.rank other.1 < order.rank lock)
    (hcodes : (LockCode.block codes).check order.after ((lock, mode) :: held) =
      some ((lock, mode) :: held)) :
    (LockCode.scope lock mode codes).check order.after held = some held := by
  refine Option.bind_eq_some_iff.mpr
    ⟨_, after_acquire_eq_some.mpr ⟨Or.inr hrising, rfl⟩, ?_⟩
  refine Option.bind_eq_some_iff.mpr ⟨_, hcodes, ?_⟩
  exact after_release_eq_some.mpr ⟨List.mem_cons_self, (List.erase_cons_head ..).symm⟩

theorem check_read {table : τ} (hheld : (order.guard table, .exclusive) ∈ held) :
    (LockCode.read table).check order.after held = some held :=
  after_access_eq_some.mpr ⟨hheld, rfl⟩

end Keeps

end LockOrder

end Foundation
