import Mathlib.Data.List.Forall2

/-! Inversion of successful `Except` and `Option` computations: what a bind, a map over a
list, and a fold over a list did when no step failed. -/

namespace PertiskProxy.Fallible

open List

theorem bind_eq_ok {action : Except ε α} {next : α → Except ε β} {result : β} :
    (action >>= next) = .ok result ↔ ∃ value, action = .ok value ∧ next value = .ok result := by
  cases action with
  | error error | ok value => simp [bind, Except.bind]

theorem eq_ok_of_isOk {check : Except ε Unit} (succeeds : check.isOk = true) :
    check = .ok () := by
  cases check with
  | ok _ => rfl
  | error _ => cases succeeds

theorem isOk_bind {action : Except ε Unit} {next : Except ε α} :
    (action >>= fun _ => next).isOk = (action.isOk && next.isOk) := by
  cases action <;> rfl

variable {values : List α} {results : List β}

theorem map_eq_self_iff {update : α → α} :
    values.map update = values ↔ ∀ value ∈ values, update value = value := by
  conv_lhs => rhs; rw [← map_id values]
  exact map_inj_left

theorem forall₂_of_mapM {step : α → Except ε β}
    (mapped : values.mapM step = .ok results) :
    Forall₂ (fun value result => step value = .ok result) values results := by
  induction values generalizing results with
  | nil =>
    cases mapped
    exact Forall₂.nil
  | cons value rest induction =>
    rw [mapM_cons] at mapped
    rcases bind_eq_ok.mp mapped with ⟨result, stepped, remaining⟩
    rcases bind_eq_ok.mp remaining with ⟨others, mappedRest, combined⟩
    cases combined
    exact Forall₂.cons stepped (induction mappedRest)

theorem exists_result_of_mapM {step : α → Except ε β}
    (mapped : values.mapM step = .ok results) {value : α} (member : value ∈ values) :
    ∃ result ∈ results, step value = .ok result := by
  have related := forall₂_of_mapM mapped
  clear mapped
  induction related with
  | nil => cases member
  | cons stepped rest induction =>
    rcases mem_cons.mp member with equal | later
    · exact ⟨_, mem_cons_self, equal ▸ stepped⟩
    · rcases induction later with ⟨result, listed, made⟩
      exact ⟨result, mem_cons_of_mem _ listed, made⟩

theorem mapM_eq_some_iff : values.mapM step = some results ↔
      Forall₂ (fun value result => step value = some result) values results := by
  induction values generalizing results with
  | nil => simp [eq_comm]
  | cons value rest induction =>
    rw [mapM_cons, forall₂_cons_left_iff]
    constructor
    · intro mapped
      rcases Option.bind_eq_some_iff.mp mapped with ⟨result, stepped, remaining⟩
      rcases Option.bind_eq_some_iff.mp remaining with ⟨others, mappedRest, combined⟩
      cases combined
      exact ⟨result, others, stepped, induction.mp mappedRest, rfl⟩
    · rintro ⟨result, others, stepped, remaining, rfl⟩
      simp [stepped, induction.mpr remaining]

theorem mapM_map_of_forall {view : α → β} {step : β → Option γ} {result : α → γ}
    (each : ∀ value ∈ values, step (view value) = some (result value)) :
    (values.map view).mapM step = some (values.map result) := by
  rw [mapM_eq_some_iff, forall₂_map_left_iff, forall₂_map_right_iff, forall₂_same]
  exact each

theorem eq_map_of_mapM {view : α → β} {step : β → Option γ} {result : α → γ}
    {results : List γ} (mapped : (values.map view).mapM step = some results)
    (each : ∀ value other, step (view value) = some other → other = result value) :
    results = values.map result := by
  rw [mapM_eq_some_iff, forall₂_map_left_iff] at mapped
  have equal : Forall₂ (fun value other => result value = other) values results :=
    mapped.imp fun value other made => (each value other made).symm
  rw [← forall₂_map_left_iff, forall₂_eq_eq_eq] at equal
  exact equal.symm

theorem filterMap_of_mapM {step : α → Option β}
    (mapped : values.mapM step = some results) : values.filterMap step = results := by
  have related := mapM_eq_some_iff.mp mapped
  induction related with
  | nil => rfl
  | cons found rest induction =>
    rw [filterMap_cons_some found, induction (mapM_eq_some_iff.mpr rest)]

theorem mapM_filter {step : α → Option β}
    {keep : α → Bool} {keep' : β → Bool} (mapped : values.mapM step = some results)
    (agrees : ∀ value result, step value = some result → keep value = keep' result) :
    (values.filter keep).mapM step = some (results.filter keep') := by
  rw [mapM_eq_some_iff] at mapped ⊢
  apply rel_filter _ mapped
  intro value result made
  simp [agrees value result made]

/-- What every successful step preserves, given the values seen so far, holds
after a fold. -/
theorem foldlM_invariant (Invariant : List α → σ → Prop) {step : σ → α → Except ε σ}
    {initial final : σ} (start : Invariant [] initial)
    (preserved : ∀ seen value state next, Invariant seen state →
      step state value = .ok next → Invariant (seen ++ [value]) next)
    (folded : values.foldlM step initial = .ok final) : Invariant values final := by
  have general : ∀ (remaining seen : List α) (state : σ), Invariant seen state →
      remaining.foldlM step state = .ok final → Invariant (seen ++ remaining) final := by
    intro remaining
    induction remaining with
    | nil =>
      intro seen state holds done
      cases done
      simpa using holds
    | cons value rest induction =>
      intro seen state holds done
      rw [foldlM_cons] at done
      rcases bind_eq_ok.mp done with ⟨next, stepped, rested⟩
      have advanced := preserved seen value state next holds stepped
      simpa using induction (seen ++ [value]) next advanced rested
  simpa using general values [] initial start folded

/-- A fold whose steps succeed or fail whatever the state succeeds exactly when
they all do. -/
theorem isOk_foldlM {step : σ → α → Except ε σ} {Succeeds : α → Prop}
    (steps : ∀ state, ∀ value ∈ values, (step state value).isOk = true ↔ Succeeds value)
    (initial : σ) :
    (values.foldlM step initial).isOk = true ↔ ∀ value ∈ values, Succeeds value := by
  induction values generalizing initial with
  | nil => simp [pure, Except.pure, Except.isOk, Except.toBool]
  | cons value rest induction =>
    rw [foldlM_cons, forall_mem_cons, ← steps initial value mem_cons_self]
    cases stepped : step initial value with
    | error error => simp [bind, Except.bind, Except.isOk, Except.toBool]
    | ok next =>
      have rested := induction
        (fun state later member => steps state later (mem_cons_of_mem _ member)) next
      simpa [bind, Except.bind, Except.isOk, Except.toBool] using rested

theorem isSome_toOption (result : Except ε α) : result.toOption.isSome = result.isOk := by
  cases result <;> rfl

def getD (result : Except ε α) (fallback : α) : α :=
  match result with
  | .ok value => value
  | .error _ => fallback

theorem eq_ok_getD {result : Except ε α} (succeeds : result.isOk = true) (fallback : α) :
    result = .ok (getD result fallback) := by
  cases result with
  | ok value => rfl
  | error _ => cases succeeds

end PertiskProxy.Fallible
