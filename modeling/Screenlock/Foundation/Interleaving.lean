import Mathlib.Logic.Function.Basic
import Screenlock.Foundation.Machine

/-! # Two threads over shared data

Two threads take their atomic steps in any order. A schedule names for each step
the side that takes it, the step itself and the time on a clock that never runs
back. What a thread does depends on its own local state, the shared data and the
time alone, so one thread's moves by themselves are a run of that thread.
-/

namespace Foundation

inductive Side where
  | left
  | right
  deriving DecidableEq, Repr

def Side.other : Side → Side
  | .left => .right
  | .right => .left

@[simp] theorem Side.other_other (side : Side) : side.other.other = side := by
  cases side <;> rfl

@[simp] theorem Side.other_ne (side : Side) : side.other ≠ side := by
  cases side <;> decide

theorem Side.eq_or_other (side chosen : Side) : chosen = side ∨ chosen = side.other := by
  cases side <;> cases chosen <;> decide

/-- One atomic step of a schedule. -/
structure Move (ℓ : Type*) where
  side : Side
  label : ℓ
  time : Int
  deriving DecidableEq, Repr

/-- The code a thread runs. Its label names the next atomic step; a thread that
has returned has none. -/
structure Program (σ π ℓ : Type*) where
  label : π → Option ℓ
  step : Int → π → σ → π × σ

structure Race (σ π : Type*) where
  shared : σ
  threads : Side → π
  clock : Int

variable {σ π ℓ : Type*}

namespace Program

variable (program : Program σ π ℓ)

def machine : Machine (Race σ π) (Move ℓ) where
  enabled race move :=
    race.clock ≤ move.time ∧ program.label (race.threads move.side) = some move.label
  step race move :=
    let (thread, shared) := program.step move.time (race.threads move.side) race.shared
    ⟨shared, Function.update race.threads move.side thread, move.time⟩

instance [DecidableEq ℓ] (race : Race σ π) (move : Move ℓ) :
    Decidable (program.machine.enabled race move) :=
  inferInstanceAs (Decidable (_ ∧ _))

/-- Both threads have returned. -/
def Complete (race : Race σ π) : Prop :=
  ∀ side, program.label (race.threads side) = none

variable (race : Race σ π) (move : Move ℓ)

@[simp] theorem machine_step_shared :
    (program.machine.step race move).shared =
      (program.step move.time (race.threads move.side) race.shared).2 := rfl

@[simp] theorem machine_step_self :
    (program.machine.step race move).threads move.side =
      (program.step move.time (race.threads move.side) race.shared).1 :=
  Function.update_self ..

theorem machine_step_ne {side : Side} (hside : side ≠ move.side) :
    (program.machine.step race move).threads side = race.threads side :=
  Function.update_of_ne hside ..

theorem clock_le_of_admits {race : Race σ π} {moves : List (Move ℓ)}
    (hadmits : program.machine.Admits race moves) :
    race.clock ≤ (program.machine.run race moves).clock := by
  induction moves generalizing race with
  | nil => exact Int.le_refl _
  | cons move rest ih => exact Int.le_trans hadmits.1.1 (ih hadmits.2)

end Program

section Alone

variable {program : Program σ π ℓ}

/-- A thread that runs from here to its return while the other one rests. -/
inductive Program.Alone (program : Program σ π ℓ) : Int → π → σ → Int → σ → Prop where
  | returned {clock : Int} {thread : π} {shared : σ} (hlabel : program.label thread = none) :
      program.Alone clock thread shared clock shared
  | step {clock time after : Int} {thread : π} {shared final : σ} {label : ℓ}
      (hlabel : program.label thread = some label) (htime : clock ≤ time)
      (hrest : program.Alone time (program.step time thread shared).1
        (program.step time thread shared).2 after final) :
      program.Alone clock thread shared after final

namespace Program.Alone

variable {clock after : Int} {thread : π} {shared final : σ}

theorem next {label : ℓ} (halone : program.Alone clock thread shared after final)
    (hlabel : program.label thread = some label) :
    ∃ time, clock ≤ time ∧ program.Alone time (program.step time thread shared).1
      (program.step time thread shared).2 after final := by
  cases halone with
  | returned hnone => rw [hnone] at hlabel; cases hlabel
  | step _ htime hrest => exact ⟨_, htime, hrest⟩

theorem done (halone : program.Alone clock thread shared after final)
    (hlabel : program.label thread = none) : after = clock ∧ final = shared := by
  cases halone with
  | returned => exact ⟨rfl, rfl⟩
  | step hsome => rw [hsome] at hlabel; cases hlabel

end Program.Alone

/-- The moves of one side up to its return, and what they leave of the other side. -/
theorem Program.alone_of_moves {race : Race σ π} {moves : List (Move ℓ)} {side : Side}
    (hside : ∀ move ∈ moves, move.side = side) (hadmits : program.machine.Admits race moves)
    (hdone : program.label ((program.machine.run race moves).threads side) = none) :
    program.Alone race.clock (race.threads side) race.shared
        (program.machine.run race moves).clock (program.machine.run race moves).shared ∧
      (program.machine.run race moves).threads side.other = race.threads side.other := by
  induction moves generalizing race with
  | nil => exact ⟨.returned hdone, rfl⟩
  | cons move rest ih =>
      obtain rfl := hside move List.mem_cons_self
      obtain ⟨⟨htime, hlabel⟩, hrest⟩ := hadmits
      obtain ⟨halone, hother⟩ :=
        ih (fun move' hmem => hside move' (List.mem_cons_of_mem _ hmem)) hrest hdone
      rw [program.machine_step_self] at halone
      rw [program.machine_step_ne _ _ (Side.other_ne _)] at hother
      exact ⟨.step hlabel htime halone, hother⟩

/-- One side first and then the other. -/
def Serial (moves : List (Move ℓ)) : Prop :=
  ∃ side first second, moves = first ++ second ∧ (∀ move ∈ first, move.side = side) ∧
    ∀ move ∈ second, move.side = side.other

/-- A complete serial run is one thread by itself and then the other. -/
theorem Program.alone_of_serial {race : Race σ π} {moves : List (Move ℓ)} (hserial : Serial moves)
    (hadmits : program.machine.Admits race moves)
    (hcomplete : program.Complete (program.machine.run race moves)) :
    ∃ side clock shared, program.Alone race.clock (race.threads side) race.shared clock shared ∧
      program.Alone clock (race.threads side.other) shared
        (program.machine.run race moves).clock (program.machine.run race moves).shared := by
  obtain ⟨side, first, second, rfl, hfirst, hsecond⟩ := hserial
  obtain ⟨hadmits₁, hadmits₂⟩ := (program.machine.steps_append _ _ _ _).mp hadmits
  rw [program.machine.run_append] at hcomplete ⊢
  obtain ⟨halone₂, hkept⟩ := alone_of_moves hsecond hadmits₂ (hcomplete side.other)
  have hdone := hcomplete side
  rw [Side.other_other] at hkept
  rw [hkept] at hdone
  obtain ⟨halone₁, hkept'⟩ := alone_of_moves hfirst hadmits₁ hdone
  rw [hkept'] at halone₂
  exact ⟨side, _, _, halone₁, halone₂⟩

end Alone

/-- Successive readings, between two moments, of a clock that never runs back. -/
structure Readings (clock after : Int) (time : Nat → Int) : Prop where
  ordered : ∀ read, time read ≤ time (read + 1)
  low : ∀ read, clock ≤ time read
  high : ∀ read, time read ≤ after

namespace Readings

variable {clock middle after : Int} {early late : Nat → Int}

theorem const {time : Int} (hlow : clock ≤ time) (hhigh : time ≤ after) :
    Readings clock after (fun _ => time) :=
  ⟨fun _ => Int.le_refl _, fun _ => hlow, fun _ => hhigh⟩

/-- The first `count` readings before a moment and the others after it. -/
theorem append (count : Nat) (hearly : Readings clock middle early)
    (hlate : Readings middle after late) :
    Readings clock after
      (fun read => if read < count then early read else late (read - count)) := by
  have hspan : clock ≤ middle ∧ middle ≤ after :=
    ⟨Int.le_trans (hearly.low 0) (hearly.high 0), Int.le_trans (hlate.low 0) (hlate.high 0)⟩
  refine ⟨fun read => ?_, fun read => ?_, fun read => ?_⟩
  · by_cases hread : read + 1 < count
    · rw [if_pos (by omega), if_pos hread]
      exact hearly.ordered read
    · rw [if_neg hread]
      split
      next => exact Int.le_trans (hearly.high read) (hlate.low _)
      next hlater =>
        rw [Nat.sub_add_comm (by omega)]
        exact hlate.ordered _
  · split
    next => exact hearly.low read
    next => exact Int.le_trans hspan.1 (hlate.low _)
  · split
    next => exact Int.le_trans (hearly.high read) hspan.2
    next => exact hlate.high _

end Readings

section LastMover

variable (wanted : ℓ → Bool)

/-- The side of the last move with a wanted label. -/
def lastMover (moves : List (Move ℓ)) : Option Side :=
  (moves.reverse.find? (fun move => wanted move.label)).map Move.side

@[simp] theorem lastMover_nil : lastMover wanted ([] : List (Move ℓ)) = none := rfl

@[simp] theorem lastMover_concat (moves : List (Move ℓ)) (move : Move ℓ) :
    lastMover wanted (moves ++ [move]) =
      if wanted move.label then some move.side else lastMover wanted moves := by
  unfold lastMover
  rw [List.reverse_append, List.reverse_singleton, List.singleton_append, List.find?_cons]
  cases wanted move.label <;> rfl

theorem lastMover_concat_self {moves : List (Move ℓ)} {move : Move ℓ}
    (hwanted : wanted move.label = true) :
    lastMover wanted (moves ++ [move]) = some move.side := by
  rw [lastMover_concat, if_pos hwanted]

theorem lastMover_concat_skip {moves : List (Move ℓ)} {move : Move ℓ}
    (hother : ¬ wanted move.label = true) :
    lastMover wanted (moves ++ [move]) = lastMover wanted moves := by
  rw [lastMover_concat, if_neg hother]

end LastMover

end Foundation
