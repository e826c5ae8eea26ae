import Mathlib.Data.List.Basic
import PertiskProxy.Foundation.Text

/-! Values that are used by name. A reference names an item of a list, up to white space
around the name; a reference that names none stands for a value of its own. This file says
what changes to the list do to what references stand for. -/

namespace PertiskProxy.Reference

open Text List Option

variable {ν : Type u} {π : Type v} {name : ν → Text} {value : ν → π}
  {items : List ν} {reference : Option Text} {own : π} {id : Text}

def named (name : ν → Text) (items : List ν) (id : Text) : Option ν :=
  items.find? fun item => name item == id

def resolve (name : ν → Text) (value : ν → π) (items : List ν) (reference : Option Text)
    (own : π) : π :=
  match (trimmedNonEmpty reference).bind (named name items) with
  | some item => value item
  | none => own

theorem resolve_congr {others : List ν} (same : ∀ id, trimmedNonEmpty reference = some id →
      named name items id = named name others id) :
    resolve name value items reference own = resolve name value others reference own := by
  unfold resolve
  cases trimmed : trimmedNonEmpty reference with
  | none => rfl
  | some id => rw [bind_some, bind_some, same id trimmed]

theorem resolve_of_named (trimmed : trimmedNonEmpty reference = some id)
    (found : named name items id = some item) :
    resolve name value items reference own = value item := by
  simp [resolve, trimmed, found]

theorem resolve_of_unnamed (trimmed : trimmedNonEmpty reference = some id)
    (absent : named name items id = none) : resolve name value items reference own = own := by
  simp [resolve, trimmed, absent]

/-- A reference stands for the same in two lists when the items it names have the
same value, or none has one and its own value is that of the other. -/
theorem resolve_eq_iff :
    resolve name value items reference own = resolve name value others reference own ↔
      ∀ id, trimmedNonEmpty reference = some id →
        ((named name items id).map value).getD own = ((named name others id).map value).getD own := by
  unfold resolve
  cases trimmedNonEmpty reference with
  | none => simp
  | some id =>
    simp only [bind_some, some.injEq, forall_eq']
    cases named name items id <;> cases named name others id <;> rfl

theorem named_append_of_ne (different : name item ≠ id) :
    named name (items ++ [item]) id = named name items id := by
  rw [named, named, find?_append]
  simp [different]

theorem resolve_append (different : trimmedNonEmpty reference ≠ some (name item)) :
    resolve name value (items ++ [item]) reference own =
      resolve name value items reference own := by
  apply resolve_congr
  intro id trimmed
  apply named_append_of_ne
  rintro rfl
  exact different trimmed

theorem named_modify (kept : ∀ item, name (update item) = name item)
    (located : items.findIdx? (fun item => name item == id) = some index) (other : Text) :
    named name (items.modify index update) other =
      if other = id then (named name items id).map update else named name items other := by
  induction items generalizing index with
  | nil => cases located
  | cons item rest induction =>
    rw [findIdx?_cons] at located
    by_cases equal : name item = id
    · rw [if_pos (beq_iff_eq.mpr equal)] at located
      cases located
      by_cases same : other = id
      · subst same
        simp [named, equal, kept]
      · have differs : name item ≠ other := fun hit => same (hit.symm.trans equal)
        simp [named, same, differs, kept]
    rw [if_neg (by simpa using equal)] at located
    rcases map_eq_some_iff.mp located with ⟨later, found, rfl⟩
    have rest := induction found
    rw [named] at rest
    by_cases hit : name item = other
    · have same : other ≠ id := fun same => equal (hit.trans same)
      simp [named, hit, same]
    · simp [named, beq_eq_false_iff_ne.mpr hit, beq_eq_false_iff_ne.mpr equal, rest]

theorem filter_modify (located : items.findIdx? kind = some index)
    (apart : ∀ item, kind item = true → other item = false ∧ other (update item) = false) :
    (items.modify index update).filter other = items.filter other := by
  induction items generalizing index with
  | nil => cases located
  | cons item rest induction =>
    rw [findIdx?_cons] at located
    by_cases first : kind item = true
    · rw [if_pos first] at located
      cases located
      rcases apart item first with ⟨before, after⟩
      rw [modify_zero_cons, filter_cons, filter_cons, before, after]
      rfl
    · rw [if_neg first] at located
      rcases map_eq_some_iff.mp located with ⟨later, found, rfl⟩
      rw [modify_succ_cons, filter_cons, filter_cons, induction found]

theorem resolve_modify_of_ne (kept : ∀ item, name (update item) = name item)
    (located : items.findIdx? (fun item => name item == id) = some index)
    (different : trimmedNonEmpty reference ≠ some id) :
    resolve name value (items.modify index update) reference own =
      resolve name value items reference own := by
  apply resolve_congr
  intro other trimmed
  rw [named_modify kept located, if_neg]
  rintro rfl
  exact different trimmed

theorem resolve_modify_self (kept : ∀ item, name (update item) = name item)
    (located : items.findIdx? (fun item => name item == id) = some index)
    (trimmed : trimmedNonEmpty reference = some id)
    (uniform : ∀ item, value (update item) = given) :
    resolve name value (items.modify index update) reference own = given := by
  cases found : named name items id with
  | none =>
    have absent : items.findIdx? (fun item => name item == id) = none := by
      rw [findIdx?_eq_none_iff]
      intro item member
      simpa using find?_eq_none.mp found item member
    rw [absent] at located
    cases located
  | some item =>
    have changed : named name (items.modify index update) id = some (update item) := by
      rw [named_modify kept located, if_pos rfl, found]
      rfl
    rw [resolve_of_named trimmed changed, uniform]

theorem resolve_filter_of_ne (different : trimmedNonEmpty reference ≠ some id) :
    resolve name value (items.filter fun item => name item != id) reference own =
      resolve name value items reference own := by
  apply resolve_congr
  intro other trimmed
  have distinct : other ≠ id := by
    rintro rfl
    exact different trimmed
  rw [named, named, find?_filter]
  congr 1
  funext item
  by_cases equal : name item = other
  · simp [equal, distinct]
  · simp [equal]

theorem resolve_filter_self (trimmed : trimmedNonEmpty reference = some id) :
    resolve name value (items.filter fun item => name item != id) reference own = own := by
  apply resolve_of_unnamed trimmed
  rw [named, find?_eq_none]
  intro item member
  simpa using (mem_filter.mp member).2

/-! ## Copies

A user of a reference may keep a copy of what it stands for as its own value. -/

/-- The reference names the item by its exact name, if it names it at all. -/
def Exact (id : Text) (reference : Option Text) : Prop :=
  ∀ text, reference = some text → trim text = id ∨ text = id →
    text = id ∧ trim text = text

theorem trimmedNonEmpty_some (trimmed : trimmedNonEmpty (some text) = some id) : trim text = id :=
  (filter_eq_some_iff.mp trimmed).1 |> some.inj

/-- An item that is removed, with the references to its exact name, leaves copies of
it behind. -/
theorem resolve_removed (copied : resolve name value items reference own = own) (id : Text) :
    resolve name value (items.filter fun item => name item != id)
      (if reference == some id then none else reference) own = own := by
  split
  · rfl
  · by_cases trimmed : trimmedNonEmpty reference = some id
    · exact resolve_filter_self trimmed
    · rw [resolve_filter_of_ne trimmed, copied]

/-- An item that is changed, with the copies of those that refer to its exact name,
is copied still. -/
theorem resolve_updated {update : ν → ν} (kept : ∀ item, name (update item) = name item)
    {index : Nat} (located : items.findIdx? (fun item => name item == id) = some index)
    {given : π} (uniform : ∀ item, value (update item) = given) (exact : Exact id reference)
    (copied : resolve name value items reference own = own) :
    resolve name value (items.modify index update) reference
        (if reference == some id then given else own) =
      if reference == some id then given else own := by
  by_cases equal : reference = some id
  · subst equal
    rw [if_pos (beq_self_eq_true _)]
    cases trimmed : trimmedNonEmpty (some id) with
    | none => simp [resolve, trimmed]
    | some text =>
      have same : text = id :=
        (trimmedNonEmpty_some trimmed).symm.trans (exact id rfl (.inr rfl)).2
      rw [same] at trimmed
      exact resolve_modify_self kept located trimmed uniform
  rw [if_neg (by simpa using equal)]
  have different : trimmedNonEmpty reference ≠ some id := by
    cases reference with
    | none => exact fun absent => nomatch absent
    | some text =>
      intro trimmed
      have same := (exact text rfl (.inl (trimmedNonEmpty_some trimmed))).1
      exact equal (congrArg some same)
  rw [resolve_modify_of_ne kept located different, copied]

end PertiskProxy.Reference
