import Screenlock.Foundation.Machine

/-! # What a run has done so far

Statements about the past of a run: something happened and nothing has undone
it since, and a property of the past holds at every point of a run. A machine
that only some events of another one reach sees the runs those events make.
-/

namespace Foundation

/-- A property of the past that each event keeps exactly under a guard holds at
every point exactly if every event meets the guard. -/
theorem prefixes_iff {ε : Type*} {property : List ε → Prop} {guard : List ε → ε → Prop}
    {events : List ε} (hstart : property [])
    (hstep : ∀ past event, past ++ [event] <+: events → property past →
      (property (past ++ [event]) ↔ guard past event)) :
    (∀ before, before <+: events → property before) ↔
      ∀ before event, before ++ [event] <+: events → guard before event := by
  constructor
  · intro hall before event hbefore
    have hearlier : property before := hall before ((List.prefix_append _ _).trans hbefore)
    exact (hstep before event hbefore hearlier).mp (hall _ hbefore)
  · intro hguard before
    induction before using List.reverseRecOn with
    | nil => exact fun _ => hstart
    | append_singleton past event ih =>
        intro hbefore
        have hearlier : property past := ih ((List.prefix_append _ _).trans hbefore)
        exact (hstep past event hbefore hearlier).mpr (hguard past event hbefore)

/-- What holds of each event after those before it, one event more. -/
theorem forall_prefix_concat {ε : Type*} {guard : List ε → ε → Prop} {past : List ε} {last : ε} :
    (∀ before event, before ++ [event] <+: past ++ [last] → guard before event) ↔
      (∀ before event, before ++ [event] <+: past → guard before event) ∧ guard past last := by
  constructor
  · intro hall
    refine ⟨fun before event hbefore => ?_, hall past last (List.prefix_refl _)⟩
    exact hall before event (hbefore.trans (List.prefix_append past [last]))
  · rintro ⟨hpast, hlast⟩ before event hbefore
    rcases List.prefix_concat_iff.mp hbefore with heq | hearlier
    · obtain ⟨rfl, hevent⟩ := List.append_inj' heq rfl
      obtain rfl : event = last := by simpa using hevent
      exact hlast
    · exact hpast before event hearlier

/-- The last event of a kind, if there is one, splits the run. -/
theorem none_or_last {ε : Type*} (kind : ε → Prop) (events : List ε) :
    (∀ event ∈ events, ¬ kind event) ∨
      ∃ before event after, events = before ++ event :: after ∧ kind event ∧
        ∀ later ∈ after, ¬ kind later := by
  induction events with
  | nil => exact Or.inl fun event hmem => absurd hmem List.not_mem_nil
  | cons event rest ih =>
      rcases ih with hnone | ⟨before, last, after, rfl, hkind, hafter⟩
      · by_cases hkind : kind event
        · exact Or.inr ⟨[], event, rest, rfl, hkind, hnone⟩
        · exact Or.inl (List.forall_mem_cons.mpr ⟨hkind, hnone⟩)
      · exact Or.inr ⟨event :: before, last, after, rfl, hkind, hafter⟩

namespace Machine

variable {σ ε : Type*} (m : Machine σ ε)

/-- Some event of the run met `happens`, and none after it met `resets`. -/
def Since (happens resets : σ → ε → Prop) (start : σ) (events : List ε) : Prop :=
  ∃ before event after, events = before ++ event :: after ∧
    happens (m.run start before) event ∧
    m.Steps (fun state later => ¬ resets state later) (m.run start (before ++ [event])) after

variable {m} {happens resets : σ → ε → Prop} {start : σ} {events : List ε}

theorem not_since_nil : ¬ m.Since happens resets start [] := by
  rintro ⟨before, event, after, hsplit, _⟩
  simp at hsplit

theorem since_concat (event : ε) :
    m.Since happens resets start (events ++ [event]) ↔
      happens (m.run start events) event ∨
        (m.Since happens resets start events ∧ ¬ resets (m.run start events) event) := by
  constructor
  · rintro ⟨before, first, after, hsplit, hhappens, hkept⟩
    rcases List.eq_nil_or_concat after with rfl | ⟨rest, last, rfl⟩
    · obtain ⟨rfl, heq⟩ := List.append_inj' hsplit rfl
      obtain rfl : event = first := by simpa using heq
      exact Or.inl hhappens
    · rw [List.concat_eq_append] at hsplit hkept
      have hlast : events ++ [event] = (before ++ first :: rest) ++ [last] := by
        rw [hsplit, List.append_assoc, List.cons_append]
      obtain ⟨rfl, heq⟩ := List.append_inj' hlast rfl
      obtain rfl : event = last := by simpa using heq
      obtain ⟨hrest, hevent⟩ := (m.steps_concat _ _ _ _).mp hkept
      rw [← run_append, List.append_assoc, List.singleton_append] at hevent
      exact Or.inr ⟨⟨before, first, rest, rfl, hhappens, hrest⟩, hevent⟩
  · rintro (hhappens | ⟨⟨before, first, rest, rfl, hhappens, hrest⟩, hevent⟩)
    · exact ⟨events, event, [], rfl, hhappens, trivial⟩
    · refine ⟨before, first, rest ++ [event], by simp, hhappens, ?_⟩
      refine (m.steps_concat _ _ _ _).mpr ⟨hrest, ?_⟩
      rw [← run_append, List.append_assoc, List.singleton_append]
      exact hevent

/-- What one kind of event sets and another takes back holds as long as the
last setting is not taken back. -/
theorem run_iff_since {holds : σ → Prop} (hstart : ¬ holds start)
    (hstep : ∀ state event, holds (m.step state event) ↔
      happens state event ∨ (holds state ∧ ¬ resets state event)) :
    holds (m.run start events) ↔ m.Since happens resets start events := by
  induction events using List.reverseRecOn with
  | nil => exact iff_of_false hstart not_since_nil
  | append_singleton past event ih => rw [m.run_concat, hstep, ih, since_concat]

section Happened

/-- Some event of the run met `happens`. -/
def Happened (m : Machine σ ε) (happens : σ → ε → Prop) (start : σ) (events : List ε) : Prop :=
  ∃ before event after, events = before ++ event :: after ∧ happens (m.run start before) event

theorem happened_concat_of_past (hpast : m.Happened happens start events) (event : ε) :
    m.Happened happens start (events ++ [event]) := by
  obtain ⟨before, first, after, rfl, hhappens⟩ := hpast
  exact ⟨before, first, after ++ [event], by simp, hhappens⟩

theorem not_happened_nil : ¬ m.Happened happens start [] := by
  rintro ⟨before, event, after, hsplit, _⟩
  simp at hsplit

theorem happened_concat (event : ε) :
    m.Happened happens start (events ++ [event]) ↔
      happens (m.run start events) event ∨ m.Happened happens start events := by
  constructor
  · rintro ⟨before, first, after, hsplit, hhappens⟩
    rcases List.eq_nil_or_concat after with rfl | ⟨rest, last, rfl⟩
    · obtain ⟨rfl, heq⟩ := List.append_inj' hsplit rfl
      obtain rfl : event = first := by simpa using heq
      exact Or.inl hhappens
    · rw [List.concat_eq_append, ← List.cons_append, ← List.append_assoc] at hsplit
      obtain ⟨rfl, _⟩ := List.append_inj' hsplit rfl
      exact Or.inr ⟨before, first, rest, rfl, hhappens⟩
  · rintro (hhappens | hpast)
    · exact ⟨events, event, [], rfl, hhappens⟩
    · exact happened_concat_of_past hpast event

/-- What holds after a run and did not at its start was brought about by an event. -/
theorem happened_of_run {holds : σ → Prop} (hstart : ¬ holds start)
    (hstep : ∀ state event, holds (m.step state event) → holds state ∨ happens state event)
    (hend : holds (m.run start events)) : m.Happened happens start events := by
  induction events using List.reverseRecOn with
  | nil => exact absurd hend hstart
  | append_singleton past event ih =>
      rw [m.run_concat] at hend
      rcases hstep _ event hend with hbefore | hhappens
      · exact happened_concat_of_past (ih hbefore) event
      · exact ⟨past, event, [], rfl, hhappens⟩

end Happened

variable (m)

theorem steps_iff_prefixes (guard : σ → ε → Prop) (start : σ) (events : List ε) :
    m.Steps guard start events ↔
      ∀ before event, before ++ [event] <+: events → guard (m.run start before) event := by
  induction events using List.reverseRecOn with
  | nil =>
      refine iff_of_true trivial fun before event hbefore => ?_
      simp at hbefore
  | append_singleton past last ih =>
      rw [m.steps_concat, ih]
      exact (@forall_prefix_concat _ (fun before => guard (m.run start before)) _ _).symm

end Machine

end Foundation
