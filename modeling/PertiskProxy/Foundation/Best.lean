import Mathlib.Data.List.Sort

/-! The loop that keeps the candidate with the highest score, the earlier one winning
ties. Scores of zero never win. -/

namespace PertiskProxy

open List

namespace Best

/-- One iteration: replace the best so far by a strictly better candidate. -/
def step (score : α → Option Nat) (best : Option (Nat × α)) (candidate : α) :
    Option (Nat × α) :=
  match score candidate with
  | some value =>
    if (best.map Prod.fst).getD 0 < value then some (value, candidate) else best
  | none => best

def scan (score : α → Option Nat) (candidates : List α) : Option (Nat × α) :=
  candidates.foldl (step score) none

variable {score : α → Option Nat}

variable {candidates : List α} {winner : α}

theorem foldl_step_sound {best : Option (Nat × α)} {value : Nat}
    (found : candidates.foldl (step score) best = some (value, winner)) :
    best = some (value, winner) ∨ (winner ∈ candidates ∧ score winner = some value) := by
  induction candidates generalizing best with
  | nil => exact .inl found
  | cons candidate rest induction =>
    rcases induction found with initial | ⟨member, scored⟩
    · cases scored : score candidate with
      | none => exact .inl (by simpa [step, scored] using initial)
      | some high =>
        by_cases better : (best.map Prod.fst).getD 0 < high
        · have chosen : high = value ∧ candidate = winner := by
            simpa [step, scored, better] using initial
          right
          exact ⟨by simp [chosen.2], by rw [← chosen.2, scored, chosen.1]⟩
        · exact .inl (by simpa [step, scored, better] using initial)
    · exact .inr ⟨mem_cons_of_mem _ member, scored⟩

theorem scan_sound {value : Nat}
    (found : scan score candidates = some (value, winner)) :
    winner ∈ candidates ∧ score winner = some value := by
  rcases foldl_step_sound found with impossible | sound
  · cases impossible
  · exact sound

theorem isSome_foldl_step {best : Option (Nat × α)}
    (started : best.isSome = true) : (candidates.foldl (step score) best).isSome = true := by
  induction candidates generalizing best with
  | nil => exact started
  | cons candidate rest induction =>
    apply induction
    cases scored : score candidate with
    | none => simpa [step, scored] using started
    | some value =>
      by_cases better : (best.map Prod.fst).getD 0 < value
      · simp [step, scored, better]
      · simpa [step, scored, better] using started

theorem foldl_step_max {best : Option (Nat × α)} {value : Nat}
    (found : candidates.foldl (step score) best = some (value, winner)) :
    (best.map Prod.fst).getD 0 ≤ value ∧
      ∀ candidate ∈ candidates, ∀ other, score candidate = some other → other ≤ value := by
  induction candidates generalizing best with
  | nil =>
    rw [foldl_nil] at found
    simp [found]
  | cons candidate rest induction =>
    rcases induction found with ⟨reached, later⟩
    have grown : (best.map Prod.fst).getD 0 ≤ ((step score best candidate).map Prod.fst).getD 0 ∧
        ∀ other, score candidate = some other →
          other ≤ ((step score best candidate).map Prod.fst).getD 0 := by
      cases scored : score candidate with
      | none => simp [step, scored]
      | some high =>
        by_cases better : (best.map Prod.fst).getD 0 < high
        · simp only [step, scored, better, if_true, Option.map_some, Option.getD_some]
          exact ⟨Nat.le_of_lt better, by rintro _ ⟨rfl⟩; exact Nat.le_refl _⟩
        · simp only [step, scored, better, if_false]
          exact ⟨Nat.le_refl _, by rintro _ ⟨rfl⟩; exact Nat.le_of_not_lt better⟩
    refine ⟨Nat.le_trans grown.1 reached, ?_⟩
    intro other member high scored
    rcases mem_cons.mp member with equal | inside
    · subst equal
      exact Nat.le_trans (grown.2 high scored) reached
    · exact later other inside high scored

theorem scan_max {value : Nat}
    (found : scan score candidates = some (value, winner)) {candidate : α}
    (member : candidate ∈ candidates) {other : Nat} (scored : score candidate = some other) :
    other ≤ value :=
  (foldl_step_max found).2 candidate member other scored

theorem isSome_scan : (scan score candidates).isSome = true ↔
      ∃ candidate ∈ candidates, ∃ value, score candidate = some value ∧ 0 < value := by
  unfold scan
  induction candidates with
  | nil => simp
  | cons candidate rest induction =>
    have head : step score none candidate = none ↔
        ¬∃ value, score candidate = some value ∧ 0 < value := by
      cases scored : score candidate with
      | none | some value => simp [step, scored]
    rw [foldl_cons]
    by_cases skipped : step score none candidate = none
    · rw [skipped, induction]
      simp [head.mp skipped]
    · have wins := not_not.mp (fun absent => skipped (head.mpr absent))
      have started : (step score none candidate).isSome = true := by
        simpa [Option.isSome_iff_ne_none] using skipped
      simp only [isSome_foldl_step started, true_iff]
      exact ⟨candidate, mem_cons_self, wins⟩

section

/-- The heaviest of the values that fit, the earliest among equals. -/
def FirstHeaviest (weight : α → Nat) (fits : α → Bool) (values : List α) : Option α → Prop
  | none => ∀ value ∈ values, fits value = false
  | some best => fits best = true ∧ ∃ before after, values = before ++ best :: after ∧
      (∀ value ∈ before, fits value = true → weight value < weight best) ∧
      ∀ value ∈ after, fits value = true → weight value ≤ weight best

variable {weight : α → Nat} {fits : α → Bool}

theorem FirstHeaviest.weight_le (first : FirstHeaviest weight fits values (some best))
    (member : value ∈ values) (suits : fits value = true) : weight value ≤ weight best := by
  rcases first with ⟨_, before, after, rfl, earlier, later⟩
  rcases mem_append.mp member with inside | inside
  · exact Nat.le_of_lt (earlier value inside suits)
  · rcases mem_cons.mp inside with rfl | inside
    · exact Nat.le_refl _
    · exact later value inside suits

/-- Inserting a value into a sorted list changes the first fit to it exactly
when it fits and is at least as heavy. -/
theorem find?_orderedInsert {value : α} {sorted : List α}
    (ordered : sorted.Pairwise fun left right => weight right ≤ weight left) :
    (sorted.orderedInsert (fun left right => weight right ≤ weight left) value).find? fits =
      match sorted.find? fits with
      | some best => if fits value = true ∧ weight best ≤ weight value then some value else some best
      | none => if fits value = true then some value else none := by
  induction sorted with
  | nil => cases suits : fits value <;> simp [suits]
  | cons head rest induction =>
    rcases pairwise_cons.mp ordered with ⟨lighter, ordered⟩
    rw [orderedInsert_cons]
    by_cases first : weight head ≤ weight value
    · have below : ∀ best, (head :: rest).find? fits = some best → weight best ≤ weight value := by
        intro best found
        rcases mem_cons.mp (mem_of_find?_eq_some found) with rfl | later
        · exact first
        · exact Nat.le_trans (lighter best later) first
      rw [if_pos first, find?_cons]
      cases found : (head :: rest).find? fits with
      | none => cases suits : fits value <;> simp
      | some best =>
        have light := below best found
        cases suits : fits value <;> simp [light]
    · rw [if_neg first, find?_cons, find?_cons, induction ordered]
      cases suits : fits head with
      | true => simp [first]
      | false => rfl

theorem firstHeaviest_insertionSort (values : List α) : FirstHeaviest weight fits values
      ((values.insertionSort fun left right => weight right ≤ weight left).find? fits) := by
  induction values with
  | nil => simp [FirstHeaviest]
  | cons value rest induction =>
    have ordered := pairwise_insertionSort
      (fun left right : α => weight right ≤ weight left) rest
    rw [insertionSort_cons, find?_orderedInsert ordered]
    cases found : (rest.insertionSort fun left right => weight right ≤ weight left).find? fits with
    | none =>
      rw [found] at induction
      cases suits : fits value with
      | true =>
        refine ⟨suits, [], rest, rfl, by simp, ?_⟩
        intro other member fitting
        rw [induction other member] at fitting
        cases fitting
      | false => exact forall_mem_cons.mpr ⟨suits, induction⟩
    | some best =>
      rw [found] at induction
      by_cases wins : fits value = true ∧ weight best ≤ weight value
      · simp only [wins, and_self, if_true]
        refine ⟨wins.1, [], rest, rfl, by simp, ?_⟩
        intro other member fitting
        exact Nat.le_trans (induction.weight_le member fitting) wins.2
      simp only [wins, if_false]
      rcases induction with ⟨fitting, before, after, rfl, earlier, later⟩
      refine ⟨fitting, value :: before, after, rfl, ?_, later⟩
      intro other member suits
      rcases mem_cons.mp member with rfl | inside
      · have heavier : ¬weight best ≤ weight other := fun light => wins ⟨suits, light⟩
        omega
      · exact earlier other inside suits

end

end Best

end PertiskProxy
