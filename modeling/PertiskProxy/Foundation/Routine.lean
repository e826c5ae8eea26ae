import Mathlib.Logic.Relation

/-! Sequential programs over a shared state. A routine acts on the state in atomic steps
and makes calls to the outside, each of which may fail. Between two steps others may
change the state; a routine that runs alone is the special case in which nobody does. -/

namespace PertiskProxy

open List

/-- A routine with calls `κ`, state `σ`, and result `α`. What follows an act
depends on the state the act found, and what follows a call on whether it
failed. -/
inductive Routine (κ : Type u) (σ : Type v) (α : Type w) where
  | done (result : α)
  | act (update : σ → σ) (next : σ → Routine κ σ α)
  | ask (call : κ) (next : Bool → Routine κ σ α)

namespace Routine

variable {κ : Type u} {σ : Type v} {α β : Type w}

protected def bind : Routine κ σ α → (α → Routine κ σ β) → Routine κ σ β
  | .done result, rest => rest result
  | .act update next, rest => .act update fun state => (next state).bind rest
  | .ask call next, rest => .ask call fun failed => (next failed).bind rest

instance : Monad (Routine κ σ) where
  pure := .done
  bind := Routine.bind

def atomically (step : σ → α × σ) : Routine κ σ α :=
  .act (fun state => (step state).2) fun state => .done (step state).1

def read (view : σ → α) : Routine κ σ α :=
  .act id fun state => .done (view state)

def modify (update : σ → σ) : Routine κ σ PUnit :=
  .act update fun _ => .done ⟨⟩

def fails (call : κ) : Routine κ σ Bool :=
  .ask call .done

def rename {κ' : Type u'} (name : κ → κ') : Routine κ σ α → Routine κ' σ α
  | .done result => .done result
  | .act update next => .act update fun state => (next state).rename name
  | .ask call next => .ask (name call) fun failed => (next failed).rename name

@[simp] theorem pure_eq (result : α) : (pure result : Routine κ σ α) = .done result := rfl

@[simp] theorem done_bind (result : α) (rest : α → Routine κ σ β) :
    (Routine.done result >>= rest) = rest result := rfl

@[simp] theorem act_bind (update : σ → σ) (next : σ → Routine κ σ α) (rest : α → Routine κ σ β) :
    (Routine.act update next >>= rest) = .act update fun state => next state >>= rest := rfl

@[simp] theorem ask_bind (call : κ) (next : Bool → Routine κ σ α) (rest : α → Routine κ σ β) :
    (Routine.ask call next >>= rest) = .ask call fun failed => next failed >>= rest := rfl

/-! ## Running alone -/

/-- The result and the final state, when exactly the given calls fail. -/
def exec (failing : κ → Bool) : Routine κ σ α → σ → α × σ
  | .done result, state => (result, state)
  | .act update next, state => (next state).exec failing (update state)
  | .ask call next, state => (next (failing call)).exec failing state

/-- The states a routine passes through, the first and the last included. -/
def visits (failing : κ → Bool) : Routine κ σ α → σ → List σ
  | .done _, state => [state]
  | .act update next, state => state :: (next state).visits failing (update state)
  | .ask call next, state => (next (failing call)).visits failing state

variable (failing : κ → Bool)

@[simp] theorem exec_done (result : α) (state : σ) :
    (done result : Routine κ σ α).exec failing state = (result, state) := rfl

@[simp] theorem exec_act (update : σ → σ) (next : σ → Routine κ σ α) (state : σ) :
    (act update next).exec failing state = (next state).exec failing (update state) := rfl

@[simp] theorem exec_ask (call : κ) (next : Bool → Routine κ σ α) (state : σ) :
    (ask call next).exec failing state = (next (failing call)).exec failing state := rfl

@[simp] theorem exec_bind (routine : Routine κ σ α) (rest : α → Routine κ σ β) (state : σ) :
    (routine >>= rest).exec failing state =
      (rest (routine.exec failing state).1).exec failing (routine.exec failing state).2 := by
  induction routine generalizing state with
  | done result => rfl
  | act update next induction => exact induction state (update state)
  | ask call next induction => exact induction (failing call) state

@[simp] theorem exec_rename {κ' : Type u'} (failing : κ' → Bool) (name : κ → κ')
    (routine : Routine κ σ α) (state : σ) :
    (routine.rename name).exec failing state = routine.exec (failing ∘ name) state := by
  induction routine generalizing state with
  | done result => rfl
  | act update next induction => exact induction state (update state)
  | ask call next induction => exact induction (failing (name call)) state

theorem mem_visits_self (routine : Routine κ σ α) (state : σ) :
    state ∈ routine.visits failing state := by
  induction routine generalizing state with
  | done result => exact mem_singleton_self state
  | act update next _ => exact mem_cons_self
  | ask call next induction => exact induction (failing call) state

theorem mem_visits_exec (routine : Routine κ σ α) (state : σ) :
    (routine.exec failing state).2 ∈ routine.visits failing state := by
  induction routine generalizing state with
  | done result => exact mem_singleton_self state
  | act update next induction =>
    exact mem_cons_of_mem _ (induction state (update state))
  | ask call next induction => exact induction (failing call) state

theorem mem_visits_bind {routine : Routine κ σ α} {rest : α → Routine κ σ β} {state visited : σ} :
    visited ∈ (routine >>= rest).visits failing state ↔ visited ∈ routine.visits failing state ∨
        visited ∈ (rest (routine.exec failing state).1).visits failing
          (routine.exec failing state).2 := by
  induction routine generalizing state with
  | done result =>
    constructor
    · exact .inr
    · rintro (first | later)
      · rw [visits, mem_singleton] at first
        subst first
        exact mem_visits_self failing _ _
      · exact later
  | act update next induction =>
    simp [act_bind, visits, exec_act, induction, or_assoc]
  | ask call next induction => exact induction (failing call)

/-! ## Invariants -/

/-- Every act keeps an invariant, whatever the calls do and whatever others did
to the state in the meantime, and the result has a property. -/
def Keeps (Invariant : σ → Prop) (Result : α → Prop) : Routine κ σ α → Prop
  | .done result => Result result
  | .act update next => ∀ state, Invariant state →
      Invariant (update state) ∧ (next state).Keeps Invariant Result
  | .ask _ next => ∀ failed, (next failed).Keeps Invariant Result

variable {Invariant : σ → Prop}

theorem Keeps.bind {Middle : α → Prop} {Result : β → Prop} {routine : Routine κ σ α}
    {rest : α → Routine κ σ β} (first : routine.Keeps Invariant Middle)
    (later : ∀ result, Middle result → (rest result).Keeps Invariant Result) :
    (routine >>= rest).Keeps Invariant Result := by
  induction routine with
  | done result => exact later result first
  | act update next induction =>
    intro state holds
    exact ⟨(first state holds).1, induction state (first state holds).2⟩
  | ask call next induction =>
    intro failed
    exact induction failed (first failed)

theorem Keeps.weaken {Result Result' : α → Prop} {routine : Routine κ σ α}
    (keeps : routine.Keeps Invariant Result) (weaker : ∀ result, Result result → Result' result) :
    routine.Keeps Invariant Result' := by
  induction routine with
  | done result => exact weaker result keeps
  | act update next induction =>
    intro state holds
    exact ⟨(keeps state holds).1, induction state (keeps state holds).2⟩
  | ask call next induction =>
    intro failed
    exact induction failed (keeps failed)

theorem Keeps.visits {Result : α → Prop} {routine : Routine κ σ α} {state visited : σ}
    (keeps : routine.Keeps Invariant Result) (start : Invariant state)
    (member : visited ∈ routine.visits failing state) : Invariant visited := by
  induction routine generalizing state with
  | done result =>
    rw [Routine.visits, mem_singleton] at member
    exact member ▸ start
  | act update next induction =>
    rw [Routine.visits, mem_cons] at member
    rcases member with rfl | later
    · exact start
    · exact induction state (keeps state start).2 (keeps state start).1 later
  | ask call next induction => exact induction (failing call) (keeps _) start member

theorem Keeps.exec {Result : α → Prop} {routine : Routine κ σ α} {state : σ}
    (keeps : routine.Keeps Invariant Result) (start : Invariant state) :
    Result (routine.exec failing state).1 ∧ Invariant (routine.exec failing state).2 := by
  induction routine generalizing state with
  | done result => exact ⟨keeps, start⟩
  | act update next induction =>
    exact induction state (keeps state start).2 (keeps state start).1
  | ask call next induction => exact induction (failing call) (keeps _) start

theorem keeps_read (view : σ → α) : (read view : Routine κ σ α).Keeps Invariant fun result =>
      ∃ state, Invariant state ∧ result = view state :=
  fun state holds => ⟨holds, state, holds, rfl⟩

theorem keeps_modify (kept : ∀ state, Invariant state → Invariant (update state)) :
    (modify update : Routine κ σ PUnit).Keeps Invariant fun _ => True :=
  fun state holds => ⟨kept state holds, trivial⟩

theorem keeps_atomically (kept : ∀ state, Invariant state → Invariant (step state).2) :
    (atomically step : Routine κ σ α).Keeps Invariant fun _ => True :=
  fun state holds => ⟨kept state holds, trivial⟩

theorem keeps_fails (call : κ) : (fails call : Routine κ σ Bool).Keeps Invariant fun _ => True :=
  fun _ => trivial

theorem keeps_foldlM {ι : Type x} {Carried : α → Prop} {body : α → ι → Routine κ σ α}
    {items : List ι} {initial : α} (start : Carried initial)
    (kept : ∀ item ∈ items, ∀ carried, Carried carried →
      (body carried item).Keeps Invariant Carried) :
    (items.foldlM body initial).Keeps Invariant Carried := by
  induction items generalizing initial with
  | nil => exact start
  | cons item rest induction =>
    rw [foldlM_cons]
    apply Keeps.bind (kept item mem_cons_self initial start)
    intro carried holds
    exact induction holds fun later member => kept later (mem_cons_of_mem _ member)

theorem keeps_forM {ι : Type x} {body : ι → Routine κ σ PUnit} {items : List ι}
    (kept : ∀ item ∈ items, (body item).Keeps Invariant fun _ => True) :
    (items.forM body).Keeps Invariant fun _ => True := by
  induction items with
  | nil => exact trivial
  | cons item rest induction =>
    change (body item >>= fun _ => rest.forM body).Keeps Invariant _
    apply Keeps.bind (kept item mem_cons_self)
    intro _ _
    exact induction fun later member => kept later (mem_cons_of_mem _ member)

/-! ## Running among others -/

/-- One step of the routine, with any outcome of a call, or a step of others. -/
inductive Step (Others : σ → σ → Prop) :
    Routine κ σ α × σ → Routine κ σ α × σ → Prop
  | act (update next state) : Step Others (.act update next, state) (next state, update state)
  | ask (call next state failed) : Step Others (.ask call next, state) (next failed, state)
  | others {state after} (routine) :
      Others state after → Step Others (routine, state) (routine, after)

variable {Others : σ → σ → Prop}

theorem Keeps.step (stable : ∀ state next, Others state next → Invariant state → Invariant next)
    (step : Step Others before later)
    (holds : before.1.Keeps Invariant Result ∧ Invariant before.2) :
    later.1.Keeps Invariant Result ∧ Invariant later.2 := by
  rcases holds with ⟨keeps, invariant⟩
  cases step with
  | act update next state => exact ⟨(keeps state invariant).2, (keeps state invariant).1⟩
  | ask call next state failed => exact ⟨keeps failed, invariant⟩
  | others routine moved => exact ⟨keeps, stable _ _ moved invariant⟩

/-- Among others that respect its invariant, a routine stays within it. -/
theorem Keeps.reaches (keeps : before.1.Keeps Invariant Result) (start : Invariant before.2)
    (stable : ∀ state next, Others state next → Invariant state → Invariant next)
    (run : Relation.ReflTransGen (Step Others) before later) : Invariant later.2 := by
  have both : later.1.Keeps Invariant Result ∧ Invariant later.2 := by
    induction run with
    | refl => exact ⟨keeps, start⟩
    | tail _ step induction => exact Keeps.step stable step induction
  exact both.2

theorem reaches_of_mem_visits (member : visited ∈ routine.visits failing state) :
    ∃ rest, Relation.ReflTransGen (Step Others) (routine, state) (rest, visited) := by
  induction routine generalizing state with
  | done result =>
    rw [visits, mem_singleton] at member
    subst member
    exact ⟨_, .refl⟩
  | act update next induction =>
    rw [visits, mem_cons] at member
    rcases member with rfl | later
    · exact ⟨_, .refl⟩
    · rcases induction state later with ⟨rest, run⟩
      exact ⟨rest, .head (.act update next state) run⟩
  | ask call next induction =>
    rcases induction (failing call) member with ⟨rest, run⟩
    exact ⟨rest, .head (.ask call next state (failing call)) run⟩

end Routine

/-! ## Procedures -/

abbrev Procedure (κ : Type u) (σ : Type v) (ε : Type w) (α : Type w) :=
  ExceptT ε (Routine κ σ) α

namespace Procedure

variable {κ : Type u} {σ : Type v} {ε : Type w} {α β : Type w}

def call (name : κ) (error : ε) : Procedure κ σ ε PUnit :=
  ExceptT.mk (.ask name fun failed => .done (if failed then .error error else .ok ⟨⟩))

def check (outcome : Except ε α) : Procedure κ σ ε α :=
  ExceptT.mk (.done outcome)

def atomically (step : σ → Except ε α × σ) : Procedure κ σ ε α :=
  ExceptT.mk (Routine.atomically step)

def read (view : σ → α) : Procedure κ σ ε α :=
  atomically fun state => (.ok (view state), state)

def modify (update : σ → σ) : Procedure κ σ ε PUnit :=
  atomically fun state => (.ok ⟨⟩, update state)

/-- Go on with the outcome of a routine that cannot fail as a whole. -/
def always (routine : Routine κ σ α) : Procedure κ σ ε α :=
  ExceptT.lift routine

def adapt {ε' : Type w} (view : ε → ε') (procedure : Procedure κ σ ε α) : Procedure κ σ ε' α :=
  ExceptT.mk (procedure.run >>= fun outcome => .done (outcome.mapError view))

def rename {κ' : Type u'} (name : κ → κ') (procedure : Procedure κ σ ε α) : Procedure κ' σ ε α :=
  ExceptT.mk (procedure.run.rename name)

def exec (failing : κ → Bool) (procedure : Procedure κ σ ε α) (state : σ) : Except ε α × σ :=
  Routine.exec failing procedure.run state

def visits (failing : κ → Bool) (procedure : Procedure κ σ ε α) (state : σ) : List σ :=
  Routine.visits failing procedure.run state

variable (failing : κ → Bool)

theorem exec_run (procedure : Procedure κ σ ε α) (state : σ) :
    Routine.exec failing procedure.run state = exec failing procedure state := rfl

@[simp] theorem exec_call (name : κ) (error : ε) (state : σ) :
    exec failing (call name error) state =
      (if failing name then .error error else .ok ⟨⟩, state) := rfl

variable (outcome : Except ε α) (view : σ → α)

@[simp] theorem exec_check (state : σ) :
    exec failing (check outcome : Procedure κ σ ε α) state = (outcome, state) := rfl

@[simp] theorem exec_atomically (step : σ → Except ε α × σ) (state : σ) :
    exec failing (atomically step : Procedure κ σ ε α) state = step state := rfl

@[simp] theorem exec_read (state : σ) :
    exec failing (read view : Procedure κ σ ε α) state = (.ok (view state), state) := rfl

@[simp] theorem exec_modify (update : σ → σ) (state : σ) :
    exec failing (modify update : Procedure κ σ ε PUnit) state = (.ok ⟨⟩, update state) := rfl

@[simp] theorem exec_pure (result : α) (state : σ) :
    exec failing (pure result : Procedure κ σ ε α) state = (.ok result, state) := rfl

@[simp] theorem exec_throw (error : ε) (state : σ) :
    exec failing (throw error : Procedure κ σ ε α) state = (.error error, state) := rfl

@[simp] theorem exec_always (routine : Routine κ σ α) (state : σ) :
    exec failing (always routine : Procedure κ σ ε α) state =
      (.ok (routine.exec failing state).1, (routine.exec failing state).2) := by
  rw [exec, always, ExceptT.run_lift]
  exact Routine.exec_bind failing routine _ state

@[simp] theorem exec_adapt {ε' : Type w} (view : ε → ε') (procedure : Procedure κ σ ε α)
    (state : σ) : exec failing (adapt view procedure) state =
      ((exec failing procedure state).1.mapError view, (exec failing procedure state).2) :=
  Routine.exec_bind failing procedure.run _ state

@[simp] theorem exec_rename {κ' : Type u'} (failing : κ' → Bool) (name : κ → κ')
    (procedure : Procedure κ σ ε α) (state : σ) :
    exec failing (rename name procedure) state = exec (failing ∘ name) procedure state :=
  Routine.exec_rename failing name procedure.run state

theorem exec_bind (procedure : Procedure κ σ ε α) (rest : α → Procedure κ σ ε β) (state : σ) :
    exec failing (procedure >>= rest) state =
      match exec failing procedure state with
      | (.ok result, after) => exec failing (rest result) after
      | (.error error, after) => (.error error, after) := by
  rw [exec, ExceptT.run_bind, Routine.exec_bind]
  rw [exec]
  rcases Routine.exec failing procedure.run state with ⟨outcome, after⟩
  cases outcome <;> rfl

theorem mem_visits_bind {procedure : Procedure κ σ ε α} {rest : α → Procedure κ σ ε β}
    {state visited : σ} : visited ∈ visits failing (procedure >>= rest) state ↔
      visited ∈ visits failing procedure state ∨
        ∃ result, (exec failing procedure state).1 = .ok result ∧
          visited ∈ visits failing (rest result) (exec failing procedure state).2 := by
  rw [visits, ExceptT.run_bind, Routine.mem_visits_bind, visits, exec]
  rcases ran : Routine.exec failing procedure.run state with ⟨outcome, after⟩
  cases outcome with
  | ok result => simp [visits]
  | error error =>
    have last : after ∈ Routine.visits failing procedure.run state := by
      have final := Routine.mem_visits_exec failing procedure.run state
      rwa [ran] at final
    simp only [Routine.pure_eq, Routine.visits, mem_singleton, reduceCtorEq, false_and,
      exists_false, or_false, or_iff_left_iff_imp]
    rintro rfl
    exact last

theorem mem_visits_adapt {ε' : Type w} {view : ε → ε'} {procedure : Procedure κ σ ε α}
    {state visited : σ} : visited ∈ visits failing (adapt view procedure) state ↔
      visited ∈ visits failing procedure state := by
  change visited ∈ Routine.visits failing (procedure.run >>= _) state ↔ _
  rw [Routine.mem_visits_bind, visits, Routine.visits, mem_singleton, or_iff_left_iff_imp]
  rintro rfl
  exact Routine.mem_visits_exec failing procedure.run state

def Quiet (procedure : Procedure κ σ ε α) (state : σ) : Prop :=
  ∀ visited ∈ visits failing procedure state, visited = state

theorem quiet_check (state : σ) : Quiet failing (check outcome : Procedure κ σ ε α) state :=
  fun _ member => mem_singleton.mp member

theorem quiet_call (name : κ) (error : ε) (state : σ) : Quiet failing (call name error) state :=
  fun _ member => mem_singleton.mp member

theorem quiet_read (state : σ) : Quiet failing (read view : Procedure κ σ ε α) state := by
  intro visited member
  rcases mem_cons.mp member with equal | last
  · exact equal
  · exact mem_singleton.mp last

theorem forall_visits_bind {Property : σ → Prop} {procedure : Procedure κ σ ε α}
    {rest : α → Procedure κ σ ε β} {state : σ} (quiet : Quiet failing procedure state)
    (start : Property state) :
    (∀ visited ∈ visits failing (procedure >>= rest) state, Property visited) ↔
      ∀ result, (exec failing procedure state).1 = .ok result →
        ∀ visited ∈ visits failing (rest result) state, Property visited := by
  have unchanged := quiet _ (Routine.mem_visits_exec failing procedure.run state)
  simp only [mem_visits_bind]
  change (exec failing procedure state).2 = state at unchanged
  rw [unchanged]
  constructor
  · intro always result passed visited later
    exact always visited (.inr ⟨result, passed, later⟩)
  · rintro always visited (first | ⟨result, passed, later⟩)
    · exact quiet visited first ▸ start
    · exact always result passed visited later

theorem mem_visits_always {routine : Routine κ σ α} {state visited : σ} :
    visited ∈ visits failing (always routine : Procedure κ σ ε α) state ↔
      visited ∈ routine.visits failing state := by
  change visited ∈ Routine.visits failing (routine >>= _) state ↔ _
  rw [Routine.mem_visits_bind]
  simp only [Function.comp_apply, Routine.visits, mem_singleton, or_iff_left_iff_imp]
  rintro rfl
  exact Routine.mem_visits_exec failing routine state

/-! ## Invariants -/

def Keeps (Invariant : σ → Prop) (Result : α → Prop) (procedure : Procedure κ σ ε α) : Prop :=
  procedure.run.Keeps Invariant fun outcome => ∀ result, outcome = .ok result → Result result

variable {Invariant : σ → Prop}

theorem Keeps.bind {Middle : α → Prop} {Result : β → Prop} {procedure : Procedure κ σ ε α}
    {rest : α → Procedure κ σ ε β} (first : Keeps Invariant Middle procedure)
    (later : ∀ result, Middle result → Keeps Invariant Result (rest result)) :
    Keeps Invariant Result (procedure >>= rest) := by
  rw [Keeps, ExceptT.run_bind]
  apply Routine.Keeps.bind first
  intro outcome middle
  cases outcome with
  | ok result => exact later result (middle result rfl)
  | error error =>
    intro result impossible
    cases impossible

theorem Keeps.visits {Result : α → Prop} {procedure : Procedure κ σ ε α} {state : σ}
    (keeps : Keeps Invariant Result procedure) (start : Invariant state) :
    ∀ visited ∈ visits failing procedure state, Invariant visited :=
  fun _ member => Routine.Keeps.visits failing keeps start member

theorem Keeps.forall_visits_bind {Property : σ → Prop} {Result : α → Prop}
    {procedure : Procedure κ σ ε α} {rest : α → Procedure κ σ ε β} {state : σ}
    (keeps : Keeps Invariant Result procedure) (start : Invariant state)
    (holds : ∀ kept, Invariant kept → Property kept)
    (later : ∀ result after, Result result → Invariant after →
      ∀ visited ∈ Procedure.visits failing (rest result) after, Property visited) :
    ∀ visited ∈ Procedure.visits failing (procedure >>= rest) state, Property visited := by
  intro visited member
  rcases (mem_visits_bind failing).mp member with first | ⟨result, passed, second⟩
  · exact holds visited (keeps.visits failing start visited first)
  · have ended := Routine.Keeps.exec failing keeps start
    exact later result _ (ended.1 result passed) ended.2 visited second

theorem keeps_call (name : κ) (error : ε) :
    Keeps Invariant (fun _ => True) (call name error : Procedure κ σ ε PUnit) := by
  intro failed result _
  trivial

theorem keeps_check (outcome : Except ε α) : Keeps Invariant (fun result => outcome = .ok result)
      (check outcome : Procedure κ σ ε α) := by
  intro result ended
  exact ended

theorem keeps_read (view : σ → α) :
    Keeps Invariant (fun result => ∃ state, Invariant state ∧ result = view state)
      (read view : Procedure κ σ ε α) := by
  intro state holds
  refine ⟨holds, ?_⟩
  intro result ended
  cases ended
  exact ⟨state, holds, rfl⟩

theorem keeps_modify (kept : ∀ state, Invariant state → Invariant (update state)) :
    Keeps Invariant (fun _ => True) (modify update : Procedure κ σ ε PUnit) := by
  intro state holds
  exact ⟨kept state holds, fun _ _ => trivial⟩

theorem keeps_always {Result : α → Prop} {routine : Routine κ σ α}
    (kept : routine.Keeps Invariant Result) :
    Keeps Invariant Result (always routine : Procedure κ σ ε α) := by
  rw [Keeps, always, ExceptT.run_lift]
  apply Routine.Keeps.bind kept
  intro result holds other ended
  cases ended
  exact holds

theorem keeps_adapt {ε' : Type w} {view : ε → ε'} {Result : α → Prop}
    {procedure : Procedure κ σ ε α} (kept : Keeps Invariant Result procedure) :
    Keeps Invariant Result (adapt view procedure) := by
  change Routine.Keeps Invariant _ (procedure.run >>= _)
  apply Routine.Keeps.bind kept
  intro outcome holds
  cases outcome with
  | ok result =>
    intro other ended
    cases ended
    exact holds result rfl
  | error error =>
    intro result impossible
    cases impossible

theorem keeps_forM {body : α → Procedure κ σ ε PUnit} {items : List α}
    (kept : ∀ item ∈ items, Keeps Invariant (fun _ => True) (body item)) :
    Keeps Invariant (fun _ => True) (items.forM body) := by
  induction items with
  | nil =>
    intro result _
    trivial
  | cons item rest induction =>
    change Keeps Invariant _ (body item >>= fun _ => rest.forM body)
    apply Keeps.bind (kept item mem_cons_self)
    intro _ _
    exact induction fun later member => kept later (mem_cons_of_mem _ member)

end Procedure

end PertiskProxy
