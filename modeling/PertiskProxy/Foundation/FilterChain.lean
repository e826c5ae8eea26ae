import Mathlib.Logic.Basic

/-! A request filter is a list of stages. Each reads the environment of its own moment, may
change the state, and lets the next one run or stops the chain with an answer. What happens
between two stages is seen in their environments. -/

namespace PertiskProxy.FilterChain

open List

inductive Verdict (ρ : Type u) where
  | next
  | stop (answer : ρ)
deriving DecidableEq

namespace Verdict

def map (view : α → β) : Verdict α → Verdict β
  | .next => .next
  | .stop answer => .stop (view answer)

def when (condition : Bool) (answer : α) : Verdict α :=
  if condition then .stop answer else .next

@[simp] theorem when_true (answer : α) : when true answer = .stop answer := rfl

@[simp] theorem when_false (answer : α) : when false answer = .next := rfl

@[simp] theorem when_eq_next : when condition answer = .next ↔ condition = false := by
  cases condition <;> simp

@[simp] theorem map_next (view : α → β) : map view .next = .next := rfl

@[simp] theorem map_stop (view : α → β) (answer : α) :
    map view (.stop answer) = .stop (view answer) := rfl

@[simp] theorem map_eq_next : map view verdict = .next ↔ verdict = .next := by
  cases verdict <;> simp

@[simp] theorem map_when (view : α → β) (condition : Bool) (answer : α) :
    map view (when condition answer) = when condition (view answer) := by
  cases condition <;> rfl

def answer : Verdict α → Option α
  | .next => none
  | .stop answer => some answer

@[simp] theorem answer_next : (next : Verdict α).answer = none := rfl

@[simp] theorem answer_stop (given : α) : (stop given).answer = some given := rfl

def first : List (Verdict α) → Option α
  | [] => none
  | verdict :: rest => verdict.answer.or (first rest)

@[simp] theorem first_nil : first ([] : List (Verdict α)) = none := rfl

theorem first_cons (verdict : Verdict α) (rest : List (Verdict α)) :
    first (verdict :: rest) = verdict.answer.or (first rest) := rfl

theorem first_map (view : α → β) (verdicts : List (Verdict α)) :
    first (verdicts.map (map view)) = (first verdicts).map view := by
  induction verdicts with
  | nil => rfl
  | cons verdict rest induction =>
    cases verdict with
    | next => exact induction
    | stop answer => rfl

theorem stop_mem_of_first (found : first verdicts = some given) : .stop given ∈ verdicts := by
  induction verdicts with
  | nil => cases found
  | cons verdict rest induction =>
    cases verdict with
    | next => exact mem_cons_of_mem _ (induction found)
    | stop answer =>
      cases found
      exact mem_cons_self

end Verdict

abbrev Stage (ε : Type u) (σ : Type v) (ρ : Type w) := ε → σ → Verdict ρ × σ

variable {ε : Type u} {σ : Type v} {ρ : Type w}

/-- Run the stages in order; stage `k` sees `moments k`. The result has no
answer when every stage let the next one run. -/
def run (moments : Nat → ε) : List (Stage ε σ ρ) → σ → Option ρ × σ
  | [], state => (none, state)
  | stage :: rest, state =>
    match stage (moments 0) state with
    | (.next, after) => run (fun index => moments (index + 1)) rest after
    | (.stop answer, after) => (some answer, after)

@[simp] theorem run_nil (moments : Nat → ε) (state : σ) :
    run moments ([] : List (Stage ε σ ρ)) state = (none, state) := rfl

theorem run_cons_of_next (passes : stage (moments 0) state = (.next, later)) :
    run moments (stage :: rest) state = run (fun index => moments (index + 1)) rest later := by
  simp [run, passes]

theorem run_cons_of_stop (stops : stage (moments 0) state = (.stop answer, later)) :
    run moments (stage :: rest) state = (some answer, later) := by
  simp [run, stops]

theorem run_cons_eq_none : run moments (stage :: rest) state = (none, final) ↔
      ∃ after, stage (moments 0) state = (.next, after) ∧
        run (fun index => moments (index + 1)) rest after = (none, final) := by
  constructor
  · intro through
    rcases result : stage (moments 0) state with ⟨verdict, after⟩
    cases verdict with
    | next => exact ⟨after, rfl, by rw [← through, run_cons_of_next result]⟩
    | stop answer =>
      rw [run_cons_of_stop result] at through
      simp at through
  · rintro ⟨after, passes, through⟩
    rw [run_cons_of_next passes, through]

theorem run_cons_eq_some : run moments (stage :: rest) state = (some answer, final) ↔
      stage (moments 0) state = (.stop answer, final) ∨
      ∃ after, stage (moments 0) state = (.next, after) ∧
        run (fun index => moments (index + 1)) rest after = (some answer, final) := by
  rcases result : stage (moments 0) state with ⟨verdict, after⟩
  cases verdict with
  | next =>
    rw [run_cons_of_next result]
    simp
  | stop found =>
    rw [run_cons_of_stop result]
    simp

theorem run_cons_fst (moments : Nat → ε) (stage : Stage ε σ ρ) (rest : List (Stage ε σ ρ))
    (state : σ) : (run moments (stage :: rest) state).1 = (stage (moments 0) state).1.answer.or
        (run (fun index => moments (index + 1)) rest (stage (moments 0) state).2).1 := by
  rcases result : stage (moments 0) state with ⟨verdict, after⟩
  cases verdict with
  | next =>
    rw [run_cons_of_next result]
    rfl
  | stop answer =>
    rw [run_cons_of_stop result]
    rfl

/-- The state after the stages, had none of them stopped. -/
def reach (moments : Nat → ε) : List (Stage ε σ ρ) → σ → σ
  | [], state => state
  | stage :: rest, state =>
    reach (fun index => moments (index + 1)) rest (stage (moments 0) state).2

/-- The verdicts of the stages, each in the state it would start from. -/
def verdicts (moments : Nat → ε) : List (Stage ε σ ρ) → σ → List (Verdict ρ)
  | [], _ => []
  | stage :: rest, state =>
    (stage (moments 0) state).1 ::
      verdicts (fun index => moments (index + 1)) rest (stage (moments 0) state).2

theorem run_fst (moments : Nat → ε) (stages : List (Stage ε σ ρ)) (state : σ) :
    (run moments stages state).1 = Verdict.first (verdicts moments stages state) := by
  induction stages generalizing moments state with
  | nil => rfl
  | cons stage rest induction => rw [run_cons_fst, induction, verdicts, Verdict.first_cons]

theorem verdicts_eq_mapIdx (moments : Nat → ε) (stages : List (Stage ε σ ρ)) (state : σ) :
    verdicts moments stages state = stages.mapIdx fun index stage =>
      (stage (moments index) (reach moments (stages.take index) state)).1 := by
  induction stages generalizing moments state with
  | nil => rfl
  | cons stage rest induction =>
    rw [verdicts, induction, mapIdx_cons]
    rfl

theorem reach_of_run (through : run moments stages state = (none, final)) :
    reach moments stages state = final := by
  induction stages generalizing moments state with
  | nil =>
    cases through
    rfl
  | cons stage rest induction =>
    rcases run_cons_eq_none.mp through with ⟨after, passes, continued⟩
    rw [reach, passes]
    exact induction continued

variable {moments : Nat → ε} {stages : List (Stage ε σ ρ)} {state : σ}

theorem reach_preserves (Invariant : σ → Prop)
    (kept : ∀ stage ∈ stages, ∀ moment before, Invariant before →
      Invariant (stage moment before).2) (start : Invariant state) :
    Invariant (reach moments stages state) := by
  induction stages generalizing moments state with
  | nil => exact start
  | cons stage rest induction =>
    exact induction (fun later member => kept later (mem_cons_of_mem _ member))
      (kept stage mem_cons_self (moments 0) state start)

theorem run_append_eq_none : run moments (front ++ rest) state = (none, final) ↔
      ∃ middle, run moments front state = (none, middle) ∧
        run (fun index => moments (index + front.length)) rest middle = (none, final) := by
  induction front generalizing moments state with
  | nil => simp
  | cons stage front induction =>
    rw [cons_append, run_cons_eq_none]
    constructor
    · intro ⟨after, passes, through⟩
      rcases induction.mp through with ⟨middle, reached, finished⟩
      exact ⟨middle, run_cons_eq_none.mpr ⟨after, passes, reached⟩, finished⟩
    · intro ⟨middle, reached, finished⟩
      rcases run_cons_eq_none.mp reached with ⟨after, passes, through⟩
      exact ⟨after, passes, induction.mpr ⟨middle, through, finished⟩⟩

theorem run_append_eq_some : run moments (front ++ rest) state = (some answer, final) ↔
      run moments front state = (some answer, final) ∨
      ∃ middle, run moments front state = (none, middle) ∧
        run (fun index => moments (index + front.length)) rest middle = (some answer, final) := by
  induction front generalizing moments state with
  | nil => simp
  | cons stage front induction =>
    rw [cons_append, run_cons_eq_some, run_cons_eq_some]
    simp only [run_cons_eq_none, induction, length_cons]
    constructor
    · intro stopped
      rcases stopped with first | ⟨after, passes, later | ⟨middle, reached, finished⟩⟩
      · exact .inl (.inl first)
      · exact .inl (.inr ⟨after, passes, later⟩)
      · exact .inr ⟨middle, ⟨after, passes, reached⟩, finished⟩
    · intro stopped
      rcases stopped with (first | ⟨after, passes, later⟩) | ⟨middle, ⟨after, passes, reached⟩, finished⟩
      · exact .inl first
      · exact .inr ⟨after, passes, .inl later⟩
      · exact .inr ⟨after, passes, .inr ⟨middle, reached, finished⟩⟩

theorem run_append_of_none (through : run moments front state = (none, middle))
    (rest : List (Stage ε σ ρ)) : run moments (front ++ rest) state =
      run (fun index => moments (index + front.length)) rest middle := by
  rcases continued : run (fun index => moments (index + front.length)) rest middle
    with ⟨answer, final⟩
  cases answer with
  | none => exact run_append_eq_none.mpr ⟨middle, through, continued⟩
  | some answer => exact run_append_eq_some.mpr (.inr ⟨middle, through, continued⟩)

theorem run_preserves_at (Invariant : σ → Prop)
    (kept : ∀ stage ∈ stages, ∀ index before, Invariant before →
      Invariant (stage (moments index) before).2) (start : Invariant state) :
    Invariant (run moments stages state).2 := by
  induction stages generalizing moments state with
  | nil => exact start
  | cons stage rest induction =>
    have stepped := kept stage mem_cons_self 0 state start
    rcases result : stage (moments 0) state with ⟨verdict, after⟩
    rw [result] at stepped
    cases verdict with
    | next =>
      rw [run_cons_of_next result]
      refine induction ?_ stepped
      intro later member index
      exact kept later (mem_cons_of_mem _ member) (index + 1)
    | stop answer =>
      rw [run_cons_of_stop result]
      exact stepped

theorem run_preserves (Invariant : σ → Prop)
    (kept : ∀ stage ∈ stages, ∀ moment before, Invariant before →
      Invariant (stage moment before).2) (start : Invariant state) :
    Invariant (run moments stages state).2 :=
  run_preserves_at Invariant (fun stage member index => kept stage member (moments index)) start

/-- Every stage of a chain that runs through passed, between the start and the
end in any preorder that the stages climb. -/
theorem run_member (Below : σ → σ → Prop) (refl : ∀ state, Below state state)
    (trans : ∀ first second third, Below first second → Below second third → Below first third)
    {final : σ}
    (climbs : ∀ stage ∈ stages, ∀ moment before after,
      stage moment before = (.next, after) → Below before after)
    (through : run moments stages state = (none, final)) :
    Below state final ∧ ∀ stage ∈ stages, ∃ moment before after, Below state before ∧
      stage moment before = (.next, after) ∧ Below after final := by
  induction stages generalizing moments state with
  | nil =>
    cases through
    exact ⟨refl _, by simp⟩
  | cons head rest induction =>
    rcases run_cons_eq_none.mp through with ⟨middle, passes, continued⟩
    have climbed := climbs head mem_cons_self (moments 0) state middle passes
    have later := induction (fun stage member => climbs stage (mem_cons_of_mem _ member))
      continued
    refine ⟨trans _ _ _ climbed later.1, ?_⟩
    intro stage member
    rcases mem_cons.mp member with equal | inRest
    · subst equal
      exact ⟨moments 0, state, middle, refl state, passes, later.1⟩
    · rcases later.2 stage inRest with ⟨moment, before, after, below, stepped, above⟩
      exact ⟨moment, before, after, trans _ _ _ climbed below, stepped, above⟩

theorem exists_stage_of_run (stopped : (run moments stages state).1 = some answer) :
    ∃ stage ∈ stages, ∃ moment before, (stage moment before).1 = .stop answer := by
  induction stages generalizing moments state with
  | nil => cases stopped
  | cons stage rest induction =>
    rw [run_cons_fst] at stopped
    cases verdict : (stage (moments 0) state).1 with
    | next =>
      rw [verdict, Verdict.answer_next, Option.none_or] at stopped
      rcases induction stopped with ⟨later, member, found⟩
      exact ⟨later, mem_cons_of_mem _ member, found⟩
    | stop given =>
      rw [verdict, Verdict.answer_stop, Option.some_or] at stopped
      have same : given = answer := Option.some.inj stopped
      exact ⟨stage, mem_cons_self, moments 0, state, same ▸ verdict⟩

end PertiskProxy.FilterChain
