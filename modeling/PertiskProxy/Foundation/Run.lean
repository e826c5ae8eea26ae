import Mathlib.Data.List.Basic

/-! Runs of a system whose whole state is what has happened so far. A history lists its
events newest first, and each event was admissible after the events before it. -/

namespace PertiskProxy

/-- The histories a condition on the next event generates. -/
inductive History (Admissible : List ε → ε → Prop) : List ε → Prop
  | start : History Admissible []
  | step {history event} :
      History Admissible history →
      Admissible history event →
      History Admissible (event :: history)

namespace History

variable {Admissible : List ε → ε → Prop}

theorem at_split (run : History Admissible (later ++ event :: earlier)) :
    History Admissible earlier ∧ Admissible earlier event := by
  induction later with
  | nil =>
    cases run with
    | step before admissible => exact ⟨before, admissible⟩
  | cons head tail induction =>
    cases run with
    | step before _ => exact induction before

theorem of_mem (run : History Admissible history) (member : event ∈ history) :
    ∃ later earlier, history = later ++ event :: earlier ∧
      History Admissible earlier ∧ Admissible earlier event := by
  rcases List.append_of_mem member with ⟨later, earlier, rfl⟩
  exact ⟨later, earlier, rfl, run.at_split⟩

end History

/-! Sequences of inputs to a system whose steps are a function. A condition on a state and
the next input is required, or established, at every step of a run. -/

namespace Run

variable {σ : Type u} {ι : Type v} {step : σ → ι → σ}

def Every (step : σ → ι → σ) (Holds : σ → ι → Prop) : σ → List ι → Prop
  | _, [] => True
  | state, input :: rest => Holds state input ∧ Every step Holds (step state input) rest

theorem Every.append (state : σ) (first second : List ι) :
    Every step Holds state (first ++ second) ↔
      Every step Holds state first ∧ Every step Holds (first.foldl step state) second := by
  induction first generalizing state with
  | nil => exact ⟨fun holds => ⟨trivial, holds⟩, And.right⟩
  | cons input rest induction =>
    rw [List.cons_append, Every, Every, induction, and_assoc]
    rfl

theorem Every.of_mem (every : Every step Holds state inputs) (member : input ∈ inputs) :
    ∃ reached, Holds reached input := by
  induction inputs generalizing state with
  | nil => cases member
  | cons first rest induction =>
    cases member with
    | head => exact ⟨state, every.1⟩
    | tail _ later => exact induction every.2 later

/-- What a safe step establishes with the help of an invariant that it keeps is
established by every step of a safe run. -/
theorem Every.of_invariant (Invariant : σ → Prop)
    (kept : ∀ state input, Invariant state → Safe state input → Invariant (step state input))
    (established : ∀ state input, Invariant state → Safe state input → Holds state input)
    (start : Invariant state) (safe : Every step Safe state inputs) :
    Every step Holds state inputs := by
  induction inputs generalizing state with
  | nil => trivial
  | cons input rest induction =>
    exact ⟨established state input start safe.1,
      induction (kept state input start safe.1) safe.2⟩

/-- Under an invariant that safe steps keep, two conditions that agree on a step
agree on a run. -/
theorem Every.iff_of_invariant (Invariant : σ → Prop)
    (kept : ∀ state input, Invariant state → Safe state input → Invariant (step state input))
    (agree : ∀ state input, Invariant state → (Holds state input ↔ Safe state input))
    (start : Invariant state) (inputs : List ι) :
    Every step Holds state inputs ↔ Every step Safe state inputs := by
  induction inputs generalizing state with
  | nil => exact Iff.rfl
  | cons input rest induction =>
    rw [Every, Every, agree state input start]
    exact and_congr_right fun safe => induction (kept state input start safe)

end Run

end PertiskProxy
