import Mathlib.Data.List.Infix
import Mathlib.Data.List.Basic

/-! # Runs of a deterministic machine

An event carries everything the surroundings decide, so a state and an event
fix the next state. Runs are lists of events. A property of every state a run
passes through is proved from one step; a property that some steps break is
characterised by the steps that keep it.
-/

namespace Foundation

/-- A deterministic system: when an event can occur, and what it does. -/
structure Machine (σ ε : Type*) where
  enabled : σ → ε → Prop
  step : σ → ε → σ

namespace Machine

variable {σ ε : Type*} (m : Machine σ ε)

def run (state : σ) (events : List ε) : σ :=
  events.foldl m.step state

@[simp] theorem run_nil (state : σ) : m.run state [] = state := rfl

@[simp] theorem run_cons (state : σ) (event : ε) (rest : List ε) :
    m.run state (event :: rest) = m.run (m.step state event) rest := rfl

theorem run_append (state : σ) (first second : List ε) :
    m.run state (first ++ second) = m.run (m.run state first) second :=
  List.foldl_append

@[simp] theorem run_concat (state : σ) (events : List ε) (event : ε) :
    m.run state (events ++ [event]) = m.step (m.run state events) event := by
  rw [run_append, run_cons, run_nil]

/-- Every step of the run starts in a state that meets the guard of its event. -/
def Steps (guard : σ → ε → Prop) : σ → List ε → Prop
  | _, [] => True
  | state, event :: rest => guard state event ∧ Steps guard (m.step state event) rest

instance decidableSteps {guard : σ → ε → Prop} [∀ state event, Decidable (guard state event)] :
    ∀ state events, Decidable (m.Steps guard state events)
  | _, [] => .isTrue trivial
  | state, event :: rest =>
      let _ : Decidable (m.Steps guard (m.step state event) rest) := decidableSteps _ rest
      inferInstanceAs (Decidable (guard state event ∧ m.Steps guard (m.step state event) rest))

/-- Each event can occur when its turn comes. -/
def Admits (state : σ) (events : List ε) : Prop :=
  m.Steps m.enabled state events

instance [∀ state event, Decidable (m.enabled state event)] (state : σ) (events : List ε) :
    Decidable (m.Admits state events) :=
  inferInstanceAs (Decidable (m.Steps m.enabled state events))

theorem steps_append (guard : σ → ε → Prop) (state : σ) (first second : List ε) :
    m.Steps guard state (first ++ second) ↔
      m.Steps guard state first ∧ m.Steps guard (m.run state first) second := by
  induction first generalizing state with
  | nil => simp [Steps]
  | cons event rest ih => simp [Steps, ih, and_assoc]

theorem steps_concat (guard : σ → ε → Prop) (state : σ) (events : List ε) (event : ε) :
    m.Steps guard state (events ++ [event]) ↔
      m.Steps guard state events ∧ guard (m.run state events) event := by
  rw [steps_append]
  simp [Steps]

theorem steps_mono {guard weaker : σ → ε → Prop}
    (himp : ∀ state event, guard state event → weaker state event) {state : σ} {events : List ε}
    (hsteps : m.Steps guard state events) : m.Steps weaker state events := by
  induction events generalizing state with
  | nil => trivial
  | cons event rest ih => exact ⟨himp state event hsteps.1, ih hsteps.2⟩

theorem steps_and {first second : σ → ε → Prop} {state : σ} {events : List ε}
    (hfirst : m.Steps first state events) (hsecond : m.Steps second state events) :
    m.Steps (fun state event => first state event ∧ second state event) state events := by
  induction events generalizing state with
  | nil => trivial
  | cons event rest ih => exact ⟨⟨hfirst.1, hsecond.1⟩, ih hfirst.2 hsecond.2⟩

/-- The property holds in every state the run passes through, both ends included. -/
def Throughout (property : σ → Prop) (state : σ) (events : List ε) : Prop :=
  ∀ before, before <+: events → property (m.run state before)

@[simp] theorem throughout_nil (property : σ → Prop) (state : σ) :
    m.Throughout property state [] ↔ property state := by
  simp [Throughout]

theorem throughout_cons (property : σ → Prop) (state : σ) (event : ε) (rest : List ε) :
    m.Throughout property state (event :: rest) ↔
      property state ∧ m.Throughout property (m.step state event) rest := by
  constructor
  · intro hall
    refine ⟨hall [] (List.nil_prefix), fun before hbefore => ?_⟩
    exact hall (event :: before) ((List.prefix_cons_inj event).mpr hbefore)
  · rintro ⟨hhead, htail⟩ before hbefore
    cases before with
    | nil => exact hhead
    | cons first tail =>
        obtain ⟨rfl, hprefix⟩ := List.cons_prefix_cons.mp hbefore
        exact htail tail hprefix

/-- A guard that ignores the state is a condition on the events. -/
theorem steps_iff_forall_mem (guard : ε → Prop) (state : σ) (events : List ε) :
    m.Steps (fun _ event => guard event) state events ↔ ∀ event ∈ events, guard event := by
  induction events generalizing state with
  | nil => simp [Steps]
  | cons event rest ih => simp [Steps, ih]

/-- Guards that agree where the second one has kept the states as they should be
hold along the same runs. -/
theorem steps_congr (always : σ → Prop) {guard guard' : σ → ε → Prop}
    (halways : ∀ state event, always state → guard' state event → always (m.step state event))
    (hguard : ∀ state event, always state → (guard state event ↔ guard' state event))
    {state : σ} (hstart : always state) (events : List ε) :
    m.Steps guard state events ↔ m.Steps guard' state events := by
  induction events generalizing state with
  | nil => exact Iff.rfl
  | cons event rest ih =>
      have hhead := hguard state event hstart
      constructor
      · rintro ⟨hfirst, hrest⟩
        exact ⟨hhead.mp hfirst, (ih (halways state event hstart (hhead.mp hfirst))).mp hrest⟩
      · rintro ⟨hfirst, hrest⟩
        exact ⟨hhead.mpr hfirst, (ih (halways state event hstart hfirst)).mpr hrest⟩

theorem admits_of_enabled (hall : ∀ state event, m.enabled state event) (state : σ)
    (events : List ε) : m.Admits state events := by
  induction events generalizing state with
  | nil => trivial
  | cons event rest ih => exact ⟨hall state event, ih _⟩

/-- What the steps that meet the guard preserve, a run of such steps preserves. -/
theorem steps_invariant {guard : σ → ε → Prop} {property : σ → Prop}
    (hstep : ∀ state event, guard state event → property state → property (m.step state event))
    {state : σ} {events : List ε} (hsteps : m.Steps guard state events)
    (hstart : property state) : property (m.run state events) := by
  induction events generalizing state with
  | nil => exact hstart
  | cons event rest ih => exact ih hsteps.2 (hstep state event hsteps.1 hstart)

/-- One preserved step makes an invariant of every admitted run. -/
theorem run_invariant {property : σ → Prop}
    (hstep : ∀ state event, m.enabled state event → property state →
      property (m.step state event))
    {state : σ} {events : List ε} (hadmits : m.Admits state events) (hstart : property state) :
    property (m.run state events) :=
  m.steps_invariant hstep hadmits hstart

/-- A property of the events so far and the state they lead to, proved step by step. -/
theorem steps_invariant_past {guard : σ → ε → Prop} {start : σ} {property : List ε → σ → Prop}
    (hstart : property [] start)
    (hstep : ∀ past event, guard (m.run start past) event → property past (m.run start past) →
      property (past ++ [event]) (m.step (m.run start past) event))
    {events : List ε} (hsteps : m.Steps guard start events) :
    property events (m.run start events) := by
  induction events using List.reverseRecOn with
  | nil => exact hstart
  | append_singleton past event ih =>
      obtain ⟨hpast, hevent⟩ := (m.steps_concat _ _ _ _).mp hsteps
      rw [run_concat]
      exact hstep past event hevent (ih hpast)

theorem run_invariant_past {start : σ} {property : List ε → σ → Prop} (hstart : property [] start)
    (hstep : ∀ past event, m.enabled (m.run start past) event →
      property past (m.run start past) →
      property (past ++ [event]) (m.step (m.run start past) event))
    {events : List ε} (hadmits : m.Admits start events) :
    property events (m.run start events) :=
  m.steps_invariant_past hstart hstep hadmits

/-- Steps that each lower a measure are at most as many as it is at first. -/
theorem length_le_of_steps {guard : σ → ε → Prop} {measure : σ → Nat}
    (hlower : ∀ state event, guard state event → measure (m.step state event) < measure state)
    {state : σ} {events : List ε} (hsteps : m.Steps guard state events) :
    events.length ≤ measure state := by
  induction events generalizing state with
  | nil => exact Nat.zero_le _
  | cons event rest ih =>
      have hfirst := hlower state event hsteps.1
      have hrest := ih hsteps.2
      rw [List.length_cons]
      omega

/-- When a step keeps the property exactly under its guard, a run keeps it
throughout exactly if every step meets the guard. The side condition `always`
holds in all states and may be used to judge a step. -/
theorem throughout_iff_steps (always : σ → Prop) {property : σ → Prop} {guard : σ → ε → Prop}
    (halways : ∀ state event, m.enabled state event → always state → always (m.step state event))
    (hstep : ∀ state event, m.enabled state event → always state → property state →
      (property (m.step state event) ↔ guard state event))
    {state : σ} {events : List ε} (hadmits : m.Admits state events)
    (hside : always state) (hstart : property state) :
    m.Throughout property state events ↔ m.Steps guard state events := by
  induction events generalizing state with
  | nil => simp [Steps, hstart]
  | cons event rest ih =>
      rw [throughout_cons]
      have hnext := hstep state event hadmits.1 hside hstart
      constructor
      · rintro ⟨_, hrest⟩
        have hkept : property (m.step state event) := hrest [] List.nil_prefix
        exact ⟨hnext.mp hkept,
          (ih hadmits.2 (halways state event hadmits.1 hside) hkept).mp hrest⟩
      · rintro ⟨hguard, hrest⟩
        exact ⟨hstart, (ih hadmits.2 (halways state event hadmits.1 hside)
          (hnext.mpr hguard)).mpr hrest⟩

/-- What the steps of a run emit, in their order. -/
def outputs {ω : Type*} (emit : σ → ε → List ω) : σ → List ε → List ω
  | _, [] => []
  | state, event :: rest => emit state event ++ outputs emit (m.step state event) rest

theorem outputs_congr {ω : Type*} {guard : σ → ε → Prop} {emit emit' : σ → ε → List ω}
    (hsame : ∀ state event, guard state event → emit state event = emit' state event) {state : σ}
    {events : List ε} (hsteps : m.Steps guard state events) :
    m.outputs emit state events = m.outputs emit' state events := by
  induction events generalizing state with
  | nil => rfl
  | cons event rest ih => rw [outputs, outputs, hsame state event hsteps.1, ih hsteps.2]

theorem outputs_map {ω ω' : Type*} (emit : σ → ε → List ω) (f : ω → ω') (state : σ)
    (events : List ε) :
    (m.outputs emit state events).map f =
      m.outputs (fun state event => (emit state event).map f) state events := by
  induction events generalizing state with
  | nil => rfl
  | cons event rest ih => rw [outputs, outputs, List.map_append, ih]

theorem outputs_filterMap {ω ω' : Type*} (emit : σ → ε → List ω) (f : ω → Option ω') (state : σ)
    (events : List ε) :
    (m.outputs emit state events).filterMap f =
      m.outputs (fun state event => (emit state event).filterMap f) state events := by
  induction events generalizing state with
  | nil => rfl
  | cons event rest ih => rw [outputs, outputs, List.filterMap_append, ih]

/-- A value that each step leaves at the last one it emits is the last one emitted. -/
theorem last_outputs {ω : Type*} {emit : σ → ε → List ω} {value : σ → ω}
    (hlast : ∀ state event, value (m.step state event) =
      (emit state event).getLast?.getD (value state)) (state : σ) (events : List ε) :
    value (m.run state events) =
      (m.outputs emit state events).getLast?.getD (value state) := by
  induction events generalizing state with
  | nil => rfl
  | cons event rest ih =>
      rw [run_cons, ih, outputs, List.getLast?_append, hlast]
      cases (m.outputs emit (m.step state event) rest).getLast? <;> rfl

/-- The states an admitted run from `start` can end in. -/
def Reachable (start state : σ) : Prop :=
  ∃ events, m.Admits start events ∧ m.run start events = state

theorem reachable_refl (start : σ) : m.Reachable start start :=
  ⟨[], trivial, rfl⟩

variable {m}

theorem Reachable.step {start state : σ} (hreach : m.Reachable start state) {event : ε}
    (henabled : m.enabled state event) : m.Reachable start (m.step state event) := by
  obtain ⟨events, hadmits, rfl⟩ := hreach
  exact ⟨events ++ [event], (m.steps_concat _ _ _ _).mpr ⟨hadmits, henabled⟩,
    m.run_concat start events event⟩

theorem Reachable.invariant {property : σ → Prop} {start state : σ}
    (hreach : m.Reachable start state)
    (hstep : ∀ state event, m.enabled state event → property state →
      property (m.step state event))
    (hstart : property start) : property state := by
  obtain ⟨events, hadmits, rfl⟩ := hreach
  exact m.run_invariant hstep hadmits hstart

end Machine

/-- Two machines over the same events whose related states enable the same
events and stay related. -/
structure Lockstep {σ τ ε : Type*} (first : Machine σ ε) (second : Machine τ ε)
    (related : σ → τ → Prop) : Prop where
  enabled : ∀ s t e, related s t → (first.enabled s e ↔ second.enabled t e)
  step : ∀ s t e, related s t → first.enabled s e → related (first.step s e) (second.step t e)

namespace Lockstep

variable {σ τ ε : Type*} {first : Machine σ ε} {second : Machine τ ε} {related : σ → τ → Prop}

theorem run (hlock : Lockstep first second related) {s : σ} {t : τ} {events : List ε}
    (hrelated : related s t) (hadmits : first.Admits s events) :
    related (first.run s events) (second.run t events) := by
  induction events generalizing s t with
  | nil => exact hrelated
  | cons event rest ih => exact ih (hlock.step _ _ _ hrelated hadmits.1) hadmits.2

/-- Guards that agree on related states hold along the same runs. -/
theorem steps (hlock : Lockstep first second related) {guard : σ → ε → Prop}
    {guard' : τ → ε → Prop} (hguard : ∀ s t e, related s t → (guard s e ↔ guard' t e))
    {s : σ} {t : τ} {events : List ε} (hrelated : related s t) (hadmits : first.Admits s events) :
    first.Steps guard s events ↔ second.Steps guard' t events := by
  induction events generalizing s t with
  | nil => exact Iff.rfl
  | cons event rest ih =>
      have hrest := ih (hlock.step _ _ _ hrelated hadmits.1) hadmits.2
      exact and_congr (hguard _ _ _ hrelated) hrest

theorem admits (hlock : Lockstep first second related) {s : σ} {t : τ} {events : List ε}
    (hrelated : related s t) (hadmits : first.Admits s events) : second.Admits t events :=
  (hlock.steps hlock.enabled hrelated hadmits).mp hadmits

end Lockstep

/-- One machine runs another: under an invariant of the concrete states, each
concrete step is the abstract step of the event it stands for. -/
structure Refinement {σ ε τ δ : Type*} (concrete : Machine σ ε) (abstract : Machine τ δ) where
  invariant : σ → Prop
  state : σ → τ
  event : ε → δ
  invariant_step : ∀ s e, concrete.enabled s e → invariant s → invariant (concrete.step s e)
  enabled : ∀ s e, concrete.enabled s e → invariant s → abstract.enabled (state s) (event e)
  step : ∀ s e, concrete.enabled s e → invariant s →
    state (concrete.step s e) = abstract.step (state s) (event e)

namespace Refinement

variable {σ ε τ δ : Type*} {concrete : Machine σ ε} {abstract : Machine τ δ}
  (refines : Refinement concrete abstract)

theorem invariant_run {start : σ} {events : List ε} (hadmits : concrete.Admits start events)
    (hstart : refines.invariant start) : refines.invariant (concrete.run start events) :=
  concrete.run_invariant refines.invariant_step hadmits hstart

theorem run {start : σ} {events : List ε} (hadmits : concrete.Admits start events)
    (hstart : refines.invariant start) :
    refines.state (concrete.run start events) =
      abstract.run (refines.state start) (events.map refines.event) := by
  induction events generalizing start with
  | nil => rfl
  | cons event rest ih =>
      rw [Machine.run_cons, List.map_cons, Machine.run_cons,
        ih hadmits.2 (refines.invariant_step _ _ hadmits.1 hstart),
        refines.step _ _ hadmits.1 hstart]

theorem admits {start : σ} {events : List ε} (hadmits : concrete.Admits start events)
    (hstart : refines.invariant start) :
    abstract.Admits (refines.state start) (events.map refines.event) := by
  induction events generalizing start with
  | nil => trivial
  | cons event rest ih =>
      have hnext := ih hadmits.2 (refines.invariant_step _ _ hadmits.1 hstart)
      rw [refines.step _ _ hadmits.1 hstart] at hnext
      exact ⟨refines.enabled _ _ hadmits.1 hstart, hnext⟩

end Refinement

end Foundation
