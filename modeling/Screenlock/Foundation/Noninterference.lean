import Screenlock.Foundation.Machine

/-! # Noninterference

An observer sees some of the events of a machine and is told something by its
steps. If the events it does not see tell it nothing and leave what it can tell
apart as it is, a run looks to it like the run of the events it sees: two runs
with the same such events cannot be told apart. Where the state is a family of
views, functions that are local to one of them compose.
-/

namespace Foundation

variable {σ ε ω : Type*}

/-- The states that are alike to the observer stay alike when both meet an event
it sees, or one of them meets an event it does not see. -/
structure Unwinding (m : Machine σ ε) (sees : ε → Prop) (alike : σ → σ → Prop)
    (emit : σ → ε → List ω) : Prop where
  symm : ∀ {s t}, alike s t → alike t s
  trans : ∀ {s t u}, alike s t → alike t u → alike s u
  seen : ∀ {s t e}, sees e → alike s t → alike (m.step s e) (m.step t e)
  told : ∀ {s t e}, sees e → alike s t → emit s e = emit t e
  unseen : ∀ {s t e}, ¬ sees e → alike s t → alike (m.step s e) t
  silent : ∀ {s t e}, ¬ sees e → alike s t → emit s e = []

namespace Unwinding

variable {m : Machine σ ε} {sees : ε → Prop} [DecidablePred sees] {alike : σ → σ → Prop}
  {emit : σ → ε → List ω} (hunwinding : Unwinding m sees alike emit)

include hunwinding

/-- The events the observer does not see can be taken out of a run. -/
theorem purge {s t : σ} (halike : alike s t) (events : List ε) :
    alike (m.run s events) (m.run t (events.filter sees)) ∧
      m.outputs emit s events = m.outputs emit t (events.filter sees) := by
  induction events generalizing s t with
  | nil => exact ⟨halike, rfl⟩
  | cons event rest ih =>
      by_cases hsees : sees event
      · obtain ⟨hend, htold⟩ := ih (hunwinding.seen hsees halike)
        rw [List.filter_cons_of_pos (by simpa using hsees)]
        refine ⟨hend, ?_⟩
        rw [Machine.outputs, Machine.outputs, htold, hunwinding.told hsees halike]
      · obtain ⟨hend, htold⟩ := ih (hunwinding.unseen hsees halike)
        rw [List.filter_cons_of_neg (by simpa using hsees)]
        refine ⟨hend, ?_⟩
        rw [Machine.outputs, hunwinding.silent hsees halike, htold, List.nil_append]

/-- Runs with the same events for the observer look the same to it. -/
theorem noninterference {s t : σ} (halike : alike s t) {first second : List ε}
    (hseen : first.filter sees = second.filter sees) :
    alike (m.run s first) (m.run t second) ∧
      m.outputs emit s first = m.outputs emit t second := by
  have hself : alike t t := hunwinding.trans (hunwinding.symm halike) halike
  obtain ⟨hend, htold⟩ := hunwinding.purge halike first
  obtain ⟨hend', htold'⟩ := hunwinding.purge hself second
  rw [hseen] at hend htold
  exact ⟨hunwinding.trans hend (hunwinding.symm hend'), htold.trans htold'.symm⟩

end Unwinding

/-- The function changes the view of its owner alone, and what it makes of that
view depends on nothing else. -/
structure LocalTo {κ ν : Type*} (view : κ → σ → ν) (owner : κ) (f : σ → σ) : Prop where
  own : ∀ {s t}, view owner s = view owner t → view owner (f s) = view owner (f t)
  other : ∀ {key} s, owner ≠ key → view key (f s) = view key s

namespace LocalTo

variable {κ ν : Type*} {view : κ → σ → ν} {owner : κ} {f g : σ → σ}

theorem of_view (change : ν → ν) (hown : ∀ s, view owner (f s) = change (view owner s))
    (hother : ∀ {key} s, owner ≠ key → view key (f s) = view key s) : LocalTo view owner f where
  own hsame := by rw [hown, hown, hsame]
  other := hother

/-- A function no view can tell from the identity. -/
theorem of_same (hsame : ∀ key s, view key (f s) = view key s) : LocalTo view owner f :=
  of_view id (fun s => hsame owner s) (fun s _ => hsame _ s)

theorem comp (hf : LocalTo view owner f) (hg : LocalTo view owner g) :
    LocalTo view owner (fun s => g (f s)) where
  own hsame := hg.own (hf.own hsame)
  other s hother := (hg.other (f s) hother).trans (hf.other s hother)

/-- A choice that the owner's view decides. -/
theorem ite {p : σ → Prop} [DecidablePred p]
    (hp : ∀ {s t}, view owner s = view owner t → (p s ↔ p t))
    (hf : LocalTo view owner f) (hg : LocalTo view owner g) :
    LocalTo view owner (fun s => if p s then f s else g s) where
  own {s t} hsame := by
    by_cases hs : p s
    · rw [if_pos hs, if_pos ((hp hsame).mp hs)]
      exact hf.own hsame
    · rw [if_neg hs, if_neg fun ht => hs ((hp hsame).mpr ht)]
      exact hg.own hsame
  other s hother := by
    split
    · exact hf.other s hother
    · exact hg.other s hother

/-- An argument that the owner's view decides. -/
theorem arg {α : Type*} {value : σ → α} {f : α → σ → σ}
    (hvalue : ∀ {s t}, view owner s = view owner t → value s = value t)
    (hf : ∀ value, LocalTo view owner (f value)) :
    LocalTo view owner (fun s => f (value s) s) where
  own {s t} hsame := by
    rw [hvalue hsame]
    exact (hf _).own hsame
  other s hother := (hf _).other s hother

/-- Every view after the function depends on the same view before it. -/
theorem apart (hf : LocalTo view owner f) {key : κ} {s t : σ} (hsame : view key s = view key t) :
    view key (f s) = view key (f t) := by
  by_cases howner : owner = key
  · subst howner
    exact hf.own hsame
  · rw [hf.other s howner, hf.other t howner, hsame]

end LocalTo

end Foundation
