import PertiskProxy.Foundation.Routine
import PertiskProxy.Foundation.Run

/-! Routines that run side by side over one state: any may take the next step, and new ones
may start at any time. A log, newest first, says which have started and how they ended.
Where none starts while another runs, it is enough to know what a routine does alone. -/

namespace PertiskProxy

namespace Routine

variable {κ : Type u} {σ : Type v} {α : Type w}

def advance (failing : κ → Bool) : Routine κ σ α → σ → Routine κ σ α × σ
  | .done result, state => (.done result, state)
  | .act update next, state => (next state, update state)
  | .ask call next, state => (next (failing call), state)

theorem exec_advance (failing : κ → Bool) (routine : Routine κ σ α) (state : σ) :
    (routine.advance failing state).1.exec failing (routine.advance failing state).2 =
      routine.exec failing state := by
  cases routine <;> rfl

theorem visits_advance {failing : κ → Bool} {routine : Routine κ σ α} {state visited : σ}
    (member : visited ∈
      (routine.advance failing state).1.visits failing (routine.advance failing state).2) :
    visited ∈ routine.visits failing state := by
  cases routine with
  | done result => exact member
  | act update next => exact List.mem_cons_of_mem _ member
  | ask call next => exact member

end Routine

namespace Pool

structure Task (κ : Type) (σ : Type) (α : Type) (τ : Type) where
  name : τ
  failing : κ → Bool
  rest : Routine κ σ α

inductive Entry (σ : Type) (α : Type) (τ : Type) where
  | started (name : τ)
  | finished (name : τ) (result : α) (state : σ)

end Pool

structure Pool (κ : Type) (σ : Type) (α : Type) (τ : Type) where
  state : σ
  running : List (Pool.Task κ σ α τ) := []
  log : List (Pool.Entry σ α τ) := []

namespace Pool

inductive Move (κ : Type) (τ : Type) where
  | start (name : τ) (failing : κ → Bool)
  | step (index : Nat)

variable {κ σ α τ : Type}

def settle (pool : Pool κ σ α τ) (index : Nat) (task : Task κ σ α τ) (state : σ) :
    Pool κ σ α τ :=
  match task.rest with
  | .done result =>
    { state, running := pool.running.eraseIdx index
      log := .finished task.name result state :: pool.log }
  | .act _ _ | .ask _ _ => { pool with state, running := pool.running.set index task }

def step (program : τ → Routine κ σ α) (pool : Pool κ σ α τ) : Move κ τ → Pool κ σ α τ
  | .start name failing =>
    let task : Task κ σ α τ := { name, failing, rest := program name }
    settle
      { pool with running := pool.running ++ [task], log := .started name :: pool.log }
      pool.running.length task pool.state
  | .step index =>
    match pool.running[index]? with
    | none => pool
    | some task =>
      let after := task.rest.advance task.failing pool.state
      settle pool index { task with rest := after.1 } after.2

section

variable {program : τ → Routine κ σ α} {Allowed : (κ → Bool) → Prop}
  {Good : σ → List (Entry σ α τ) → Prop}

/-- A routine starts only when none is running, and only allowed calls of its fail. -/
def Serial (Allowed : (κ → Bool) → Prop) (pool : Pool κ σ α τ) : Move κ τ → Prop
  | .start _ failing => pool.running = [] ∧ Allowed failing
  | .step _ => True

/-- Alone and from something good, a routine passes only through what is good. -/
def PassesGood (program : τ → Routine κ σ α) (Allowed : (κ → Bool) → Prop)
    (Good : σ → List (Entry σ α τ) → Prop) : Prop :=
  ∀ name failing start earlier, Allowed failing → Good start earlier →
    ∀ visited ∈ (program name).visits failing start, Good visited (.started name :: earlier)

def EndsGood (program : τ → Routine κ σ α) (Allowed : (κ → Bool) → Prop)
    (Good : σ → List (Entry σ α τ) → Prop) : Prop :=
  ∀ name failing start earlier, Allowed failing → Good start earlier →
    Good ((program name).exec failing start).2
      (.finished name ((program name).exec failing start).1
        ((program name).exec failing start).2 :: .started name :: earlier)

/-- What is left of a task is the rest of a run alone from an earlier state, the one
in which it started. -/
def Underway (program : τ → Routine κ σ α) (Allowed : (κ → Bool) → Prop)
    (Good : σ → List (Entry σ α τ) → Prop) (task : Task κ σ α τ) (state : σ)
    (log : List (Entry σ α τ)) : Prop :=
  ∃ start earlier, log = .started task.name :: earlier ∧ Good start earlier ∧
    Allowed task.failing ∧
    task.rest.exec task.failing state = (program task.name).exec task.failing start ∧
    ∀ visited ∈ task.rest.visits task.failing state,
      visited ∈ (program task.name).visits task.failing start

def Orderly (program : τ → Routine κ σ α) (Allowed : (κ → Bool) → Prop)
    (Good : σ → List (Entry σ α τ) → Prop) (pool : Pool κ σ α τ) : Prop :=
  (pool.running = [] ∧ Good pool.state pool.log) ∨
    ∃ task, pool.running = [task] ∧ Underway program Allowed Good task pool.state pool.log

theorem Underway.settle {task : Task κ σ α τ} {pool : Pool κ σ α τ} {state : σ} {index : Nat}
    (ends : EndsGood program Allowed Good)
    {other : Task κ σ α τ} (only : pool.running = [other]) (first : index = 0)
    (underway : Underway program Allowed Good task state pool.log) :
    Orderly program Allowed Good (pool.settle index task state) := by
  subst first
  rcases underway with ⟨start, earlier, logged, good, allowed, ran, visits⟩
  rw [Pool.settle]
  split
  · next result finished =>
    refine .inl ⟨by rw [only]; rfl, ?_⟩
    rw [finished, Routine.exec_done] at ran
    rw [logged]
    have ended := ends task.name task.failing start earlier allowed good
    rw [← ran] at ended
    exact ended
  · exact .inr ⟨task, by simp only [only]; rfl, ⟨start, earlier, logged, good, allowed, ran,
      visits⟩⟩
  · exact .inr ⟨task, by simp only [only]; rfl, ⟨start, earlier, logged, good, allowed, ran,
      visits⟩⟩

theorem Underway.advance {task : Task κ σ α τ} {state : σ} {log : List (Entry σ α τ)}
    (underway : Underway program Allowed Good task state log) : Underway program Allowed Good
      { task with rest := (task.rest.advance task.failing state).1 }
      (task.rest.advance task.failing state).2 log := by
  rcases underway with ⟨start, earlier, logged, good, allowed, ran, visits⟩
  refine ⟨start, earlier, logged, good, allowed, ?_, ?_⟩
  · exact (Routine.exec_advance task.failing task.rest state).trans ran
  · intro visited member
    exact visits visited (Routine.visits_advance member)

theorem Orderly.step (ends : EndsGood program Allowed Good)
    (orderly : Orderly program Allowed Good pool) (serial : Serial Allowed pool move) :
    Orderly program Allowed Good (pool.step program move) := by
  cases move with
  | start name failing =>
    rcases serial with ⟨none, allowed⟩
    rcases orderly with ⟨-, good⟩ | ⟨task, one, -⟩
    · apply Underway.settle ends
      · simp only [none, List.nil_append]
        rfl
      · rw [none]
        rfl
      · exact ⟨pool.state, pool.log, rfl, good, allowed, rfl, fun _ member => member⟩
    · rw [none] at one
      cases one
  | step index =>
    rw [Pool.step]
    split
    · exact orderly
    rename_i task found
    rcases orderly with ⟨none, -⟩ | ⟨only, one, underway⟩
    · simp [none] at found
    have first : index = 0 := by
      rw [one] at found
      simpa using (List.getElem?_eq_some_iff.mp found).1
    subst first
    rw [one] at found
    cases found
    exact underway.advance.settle ends one rfl

/-- What every routine passes through and ends with, when it starts from something
good, is what a pool passes through that runs them one after another. -/
theorem good_of_serial (passes : PassesGood program Allowed Good)
    (ends : EndsGood program Allowed Good) (idle : pool.running = [])
    (good : Good pool.state pool.log)
    (serial : Run.Every (Pool.step program) (Serial Allowed) pool moves) :
    Run.Every (Pool.step program)
      (fun pool move => Good (pool.step program move).state (pool.step program move).log)
      pool moves := by
  have now : ∀ pool, Orderly program Allowed Good pool → Good pool.state pool.log := by
    intro pool orderly
    rcases orderly with ⟨-, good⟩ | ⟨task, -, ⟨start, earlier, logged, good, allowed, -, visits⟩⟩
    · exact good
    · rw [logged]
      exact passes task.name task.failing start earlier allowed good pool.state
        (visits pool.state (Routine.mem_visits_self _ _ _))
  refine Run.Every.of_invariant (Orderly program Allowed Good) ?_ ?_ (.inl ⟨idle, good⟩) serial
  · exact fun pool move orderly safe => orderly.step ends safe
  · exact fun pool move orderly safe => now _ (orderly.step ends safe)

end

end Pool

/-! What a routine may do next can depend on what it has done before. A protocol gives each
of its phases an assumption about the state, which others respect, and the acts allowed in
it. A routine follows it if every act is allowed and leads to a phase in which the rest
follows it. -/

/-- Phases `π` of a routine over the state `σ`. -/
structure Protocol (σ : Type v) (π : Type p) where
  Assumes : π → σ → Prop
  Allows : π → σ → π → σ → Prop

namespace Routine

variable {κ : Type u} {σ : Type v} {α β : Type w} {π : Type p} {protocol : Protocol σ π}
  {phase : π}

/-- The routine follows the protocol from a phase on, and its result has a
property in the phase it ends in. -/
def Follows (protocol : Protocol σ π) (Result : π → α → Prop) : Routine κ σ α → π → Prop
  | .done result, phase => Result phase result
  | .act update next, phase => ∀ state, protocol.Assumes phase state →
      ∃ later, protocol.Allows phase state later (update state) ∧
        (next state).Follows protocol Result later
  | .ask _ next, phase => ∀ failed, (next failed).Follows protocol Result phase

theorem Follows.bind {Middle : π → α → Prop} {Result : π → β → Prop}
    {routine : Routine κ σ α} {rest : α → Routine κ σ β}
    (first : routine.Follows protocol Middle phase)
    (second : ∀ later result, Middle later result → (rest result).Follows protocol Result later) :
    (routine >>= rest).Follows protocol Result phase := by
  induction routine generalizing phase with
  | done result => exact second phase result first
  | act update next induction =>
    intro state assumed
    rcases first state assumed with ⟨later, allowed, follows⟩
    exact ⟨later, allowed, induction state follows⟩
  | ask call next induction =>
    intro failed
    exact induction failed (first failed)

theorem Follows.advance {Result : π → α → Prop} {routine : Routine κ σ α} {state : σ}
    (follows : routine.Follows protocol Result phase) (assumed : protocol.Assumes phase state)
    (failing : κ → Bool) :
    ∃ later, (routine.advance failing state).1.Follows protocol Result later ∧
      (later = phase ∧ (routine.advance failing state).2 = state ∨
        protocol.Allows phase state later (routine.advance failing state).2) := by
  cases routine with
  | done result => exact ⟨phase, follows, .inl ⟨rfl, rfl⟩⟩
  | act update next =>
    rcases follows state assumed with ⟨later, allowed, rest⟩
    exact ⟨later, rest, .inr allowed⟩
  | ask call next => exact ⟨phase, follows (failing call), .inl ⟨rfl, rfl⟩⟩

theorem follows_fails (call : κ) :
    (fails call : Routine κ σ Bool).Follows protocol (fun later _ => later = phase) phase :=
  fun _ => rfl

theorem follows_atomically {step : σ → α × σ} (allowed : ∀ state, protocol.Assumes phase state →
      protocol.Allows phase state phase (step state).2) :
    (atomically step : Routine κ σ α).Follows protocol (fun later _ => later = phase) phase :=
  fun state assumed => ⟨phase, allowed state assumed, rfl⟩

theorem follows_read
    (allowed : ∀ state, protocol.Assumes phase state → protocol.Allows phase state phase state) :
    (read view : Routine κ σ α).Follows protocol (fun later _ => later = phase) phase :=
  fun state assumed => ⟨phase, allowed state assumed, rfl⟩

theorem follows_modify {update : σ → σ} (allowed : ∀ state, protocol.Assumes phase state →
      protocol.Allows phase state phase (update state)) :
    (modify update : Routine κ σ PUnit).Follows protocol (fun later _ => later = phase) phase :=
  fun state assumed => ⟨phase, allowed state assumed, rfl⟩

theorem follows_foldlM {ι : Type x} {Carried : π → α → Prop} {body : α → ι → Routine κ σ α}
    {items : List ι} {initial : α} (start : Carried phase initial)
    (kept : ∀ item ∈ items, ∀ later carried, Carried later carried →
      (body carried item).Follows protocol Carried later) :
    (items.foldlM body initial).Follows protocol Carried phase := by
  induction items generalizing phase initial with
  | nil => exact start
  | cons item rest induction =>
    rw [List.foldlM_cons]
    apply Follows.bind (kept item List.mem_cons_self phase initial start)
    intro later carried holds
    exact induction holds fun item member => kept item (List.mem_cons_of_mem _ member)

theorem follows_forM {ι : Type x} {body : ι → Routine κ σ PUnit} {items : List ι}
    (kept : ∀ item ∈ items, (body item).Follows protocol (fun later _ => later = phase) phase) :
    (items.forM body).Follows protocol (fun later _ => later = phase) phase := by
  induction items with
  | nil => rfl
  | cons item rest induction =>
    change (body item >>= fun _ => rest.forM body).Follows protocol _ phase
    apply Follows.bind (kept item List.mem_cons_self)
    rintro later _ rfl
    exact induction fun item member => kept item (List.mem_cons_of_mem _ member)

end Routine

namespace Procedure

variable {κ : Type u} {σ : Type v} {ε : Type w} {α β : Type w} {π : Type p}
  {protocol : Protocol σ π} {phase : π}

def Stays (protocol : Protocol σ π) (phase : π) (procedure : Procedure κ σ ε α) : Prop :=
  procedure.run.Follows protocol (fun later _ => later = phase) phase

theorem Stays.bind {procedure : Procedure κ σ ε α} {rest : α → Procedure κ σ ε β}
    (first : Stays protocol phase procedure)
    (second : ∀ result, Stays protocol phase (rest result)) :
    Stays protocol phase (procedure >>= rest) := by
  rw [Stays, ExceptT.run_bind]
  apply Routine.Follows.bind first
  rintro later outcome rfl
  cases outcome with
  | ok result => exact second result
  | error error => rfl

theorem stays_call (name : κ) (error : ε) :
    Stays protocol phase (call name error : Procedure κ σ ε PUnit) :=
  fun _ => rfl

theorem stays_check (outcome : Except ε α) :
    Stays protocol phase (check outcome : Procedure κ σ ε α) :=
  rfl

theorem stays_read
    (allowed : ∀ state, protocol.Assumes phase state → protocol.Allows phase state phase state) :
    Stays protocol phase (read view : Procedure κ σ ε α) :=
  fun state assumed => ⟨phase, allowed state assumed, rfl⟩

theorem stays_modify {update : σ → σ} (allowed : ∀ state, protocol.Assumes phase state →
      protocol.Allows phase state phase (update state)) :
    Stays protocol phase (modify update : Procedure κ σ ε PUnit) :=
  fun state assumed => ⟨phase, allowed state assumed, rfl⟩

theorem stays_adapt {ε' : Type w} {view : ε → ε'} {procedure : Procedure κ σ ε α}
    (stays : Stays protocol phase procedure) : Stays protocol phase (adapt view procedure) := by
  change Routine.Follows protocol _ (procedure.run >>= _) phase
  apply Routine.Follows.bind stays
  rintro later outcome rfl
  rfl

theorem stays_forM {body : α → Procedure κ σ ε PUnit} {items : List α}
    (stays : ∀ item ∈ items, Stays protocol phase (body item)) :
    Stays protocol phase (items.forM body) := by
  induction items with
  | nil => rfl
  | cons item rest induction =>
    change Stays protocol phase (body item >>= fun _ => rest.forM body)
    apply Stays.bind (stays item List.mem_cons_self)
    intro _
    exact induction fun item member => stays item (List.mem_cons_of_mem _ member)

end Procedure

end PertiskProxy
