import Mathlib.Data.List.Count
import Mathlib.Data.List.Infix
import Mathlib.Data.List.Perm.Subperm
import Mathlib.Data.List.Range
import Mathlib.Data.Nat.ModEq

/-! Several users draw numbers from one counter, and number `k` stands for item `k mod n`
of a list of `n`. A list of marks tells which draws are those of one user. How the marked
draws are spread over the items depends only on how many draws there are from one to the
next. -/

namespace PertiskProxy.RoundRobin

open List

def readings : Nat → List Bool → List Nat
  | _, [] => []
  | start, true :: rest => start :: readings (start + 1) rest
  | start, false :: rest => readings (start + 1) rest

/-- The draws from each marked draw to the next one, when there were `since` draws
since the last. -/
def gapsSince : Nat → List Bool → List Nat
  | _, [] => []
  | since, true :: rest => since :: gapsSince 1 rest
  | since, false :: rest => gapsSince (since + 1) rest

def gaps : List Bool → List Nat
  | [] => []
  | true :: rest => gapsSince 1 rest
  | false :: rest => gaps rest

/-- From a marked draw to one that follows fewer than `n` marked draws later, the
number of draws is no multiple of `n`. -/
def Spread (n : Nat) (marks : List Bool) : Prop :=
  ∀ block, block <:+: gaps marks → block ≠ [] → block.length < n → ¬n ∣ block.sum

theorem cons_readings (last since : Nat) (marks : List Bool) :
    last :: readings (last + since) marks = (gapsSince since marks).scanl (· + ·) last := by
  induction marks generalizing last since with
  | nil => rfl
  | cons mark rest induction =>
    cases mark with
    | true =>
      rw [readings, gapsSince, scanl_cons, induction]
    | false =>
      rw [readings, gapsSince, ← induction, Nat.add_assoc]

theorem readings_eq (start : Nat) (marks : List Bool) : readings start marks = [] ∨
      ∃ first, readings start marks = (gaps marks).scanl (· + ·) first := by
  induction marks generalizing start with
  | nil => exact .inl rfl
  | cons mark rest induction =>
    cases mark with
    | true => exact .inr ⟨start, cons_readings start 1 rest⟩
    | false => exact induction (start + 1)

variable {gaps window : List Nat} {start : Nat}

theorem exists_prefix_of_mem_scanl {number : Nat}
    (member : number ∈ gaps.scanl (· + ·) start) :
    ∃ block, block <+: gaps ∧ number = start + block.sum := by
  induction gaps generalizing start with
  | nil =>
    rw [scanl_nil, mem_singleton] at member
    exact ⟨[], nil_prefix, member⟩
  | cons gap rest induction =>
    rw [scanl_cons, mem_cons] at member
    rcases member with rfl | later
    · exact ⟨[], nil_prefix, rfl⟩
    · rcases induction later with ⟨block, inside, rfl⟩
      refine ⟨gap :: block, cons_prefix_cons.mpr ⟨rfl, inside⟩, ?_⟩
      rw [sum_cons, Nat.add_assoc]

theorem nodup_scanl {n : Nat}
    (apart : ∀ block, block <:+: gaps → block ≠ [] → ¬n ∣ block.sum) (start : Nat) :
    ((gaps.scanl (· + ·) start).map (· % n)).Nodup := by
  induction gaps generalizing start with
  | nil => simp
  | cons gap rest induction =>
    rw [scanl_cons, map_cons, nodup_cons]
    refine ⟨?_, induction (fun block inside => apart block (inside.trans ?_)) _⟩
    · intro member
      rcases mem_map.mp member with ⟨number, later, same⟩
      rcases exists_prefix_of_mem_scanl later with ⟨block, inside, rfl⟩
      have lead : gap :: block <+: gap :: rest := cons_prefix_cons.mpr ⟨rfl, inside⟩
      apply apart (gap :: block) lead.isInfix (cons_ne_nil _ _)
      have equal : start + (gap + block.sum) ≡ start + 0 [MOD n] := by
        rw [← Nat.add_assoc]
        exact same
      rw [sum_cons]
      exact (Nat.modEq_zero_iff_dvd).mp (Nat.ModEq.add_left_cancel' start equal)
    · exact (suffix_cons gap rest).isInfix

theorem suffix_scanl
    (ends : window <:+ gaps.scanl (· + ·) start) :
    window = [] ∨ ∃ first block, block <:+ gaps ∧ window = block.scanl (· + ·) first := by
  induction gaps generalizing start with
  | nil =>
    rw [scanl_nil] at ends
    rcases suffix_cons_iff.mp ends with equal | empty
    · exact .inr ⟨start, [], suffix_refl _, equal⟩
    · exact .inl (suffix_nil.mp empty)
  | cons gap rest induction =>
    rw [scanl_cons] at ends
    rcases suffix_cons_iff.mp ends with equal | later
    · exact .inr ⟨start, gap :: rest, suffix_refl _, equal.trans scanl_cons.symm⟩
    · rcases induction later with empty | ⟨first, block, inside, equal⟩
      · exact .inl empty
      · exact .inr ⟨first, block, inside.trans (suffix_cons gap rest), equal⟩

theorem prefix_scanl
    (starts : window <+: gaps.scanl (· + ·) start) :
    window = [] ∨ ∃ block, block <+: gaps ∧ window = block.scanl (· + ·) start := by
  induction gaps generalizing start window with
  | nil =>
    rw [scanl_nil] at starts
    cases window with
    | nil => exact .inl rfl
    | cons head tail =>
      rcases cons_prefix_cons.mp starts with ⟨rfl, empty⟩
      rw [prefix_nil.mp empty]
      exact .inr ⟨[], nil_prefix, rfl⟩
  | cons gap rest induction =>
    rw [scanl_cons] at starts
    cases window with
    | nil => exact .inl rfl
    | cons head tail =>
      rcases cons_prefix_cons.mp starts with ⟨rfl, later⟩
      rcases induction later with rfl | ⟨block, inside, rfl⟩
      · exact .inr ⟨[], nil_prefix, rfl⟩
      · exact .inr ⟨gap :: block, cons_prefix_cons.mpr ⟨rfl, inside⟩, scanl_cons.symm⟩

theorem infix_scanl
    (inside : window <:+: gaps.scanl (· + ·) start) :
    window = [] ∨ ∃ first block, block <:+: gaps ∧ window = block.scanl (· + ·) first := by
  rcases infix_iff_prefix_suffix.mp inside with ⟨tail, starts, ends⟩
  rcases suffix_scanl ends with rfl | ⟨first, behind, suffix, rfl⟩
  · exact .inl (prefix_nil.mp starts)
  · rcases prefix_scanl starts with empty | ⟨block, lead, equal⟩
    · exact .inl empty
    · exact .inr ⟨first, block, lead.isInfix.trans suffix.isInfix, equal⟩

theorem nodup_window {n : Nat} {marks : List Bool} (spread : Spread n marks)
    (inside : window <:+: readings start marks) (short : window.length ≤ n) :
    (window.map (· % n)).Nodup := by
  rcases readings_eq start marks with empty | ⟨first, equal⟩
  · rw [empty, infix_nil] at inside
    rw [inside]
    exact nodup_nil
  rw [equal] at inside
  rcases infix_scanl inside with rfl | ⟨other, block, within, rfl⟩
  · exact nodup_nil
  apply nodup_scanl
  intro part inner nonempty
  apply spread part (inner.trans within) nonempty
  have shorter := inner.length_le
  rw [length_scanl] at short
  omega

def turn (items : List α) (number : Nat) : Option α :=
  items[number % items.length]?

theorem turns_perm {items : List α}
    (different : (window.map (· % items.length)).Nodup) (full : window.length = items.length) :
    (window.map (turn items)).Perm (items.map some) := by
  have range : (window.map (· % items.length)).Perm (range items.length) := by
    refine (Nodup.subperm different fun number member => ?_).perm_of_length_le ?_
    · rcases mem_map.mp member with ⟨drawn, listed, rfl⟩
      have positive : 0 < items.length := by
        rw [← full]
        exact length_pos_of_mem listed
      exact mem_range.mpr (Nat.mod_lt _ positive)
    · rw [length_range, length_map, full]
  have listed : (List.range items.length).map (fun index => items[index]?) = items.map some := by
    apply ext_getElem
    · simp
    · intro index inside _
      simp at inside ⊢
  have split : window.map (turn items) =
      (window.map (· % items.length)).map fun index => items[index]? := by
    rw [map_map]
    rfl
  rw [split, ← listed]
  exact range.map _

/-- In every window of `rounds` times as many draws as there are items, every item is
drawn `rounds` times, or so many times as often as it is listed. -/
theorem count_window [BEq α] [LawfulBEq α] {items : List α} {marks : List Bool}
    (spread : Spread items.length marks) {rounds : Nat}
    (inside : window <:+: readings start marks) (full : window.length = rounds * items.length)
    (item : α) : (window.map (turn items)).count (some item) = rounds * items.count item := by
  induction rounds generalizing window with
  | zero =>
    rw [Nat.zero_mul] at full
    simp [length_eq_zero_iff.mp full]
  | succ rounds induction =>
    rw [Nat.succ_mul] at full
    have first : (window.take items.length).length = items.length := by
      rw [length_take]
      omega
    have rest : (window.drop items.length).length = rounds * items.length := by
      rw [length_drop]
      omega
    have firstInside := (List.take_prefix items.length window).isInfix.trans inside
    have restInside := (drop_suffix items.length window).isInfix.trans inside
    have once := (turns_perm (nodup_window spread firstInside (Nat.le_of_eq first))
      first).count_eq (some item)
    rw [count_map_of_injective _ _ (Option.some_injective α)] at once
    rw [← take_append_drop items.length window, map_append, count_append, once,
      induction restInside rest, Nat.succ_mul, Nat.add_comm]

end PertiskProxy.RoundRobin
