import Mathlib.Data.List.Induction
import Mathlib.Data.List.Nodup
import Mathlib.Data.List.Perm.Basic

/-! A hash map is the list of its entries, in whatever order the map iterates over them,
with each key at most once. Results about a map that quantify over all values of this type
hold for every iteration order. -/

namespace PertiskProxy

open List Function

structure HashMap (κ : Type u) (ν : Type v) where
  entries : List (κ × ν)
  nodup : (entries.map Prod.fst).Nodup
deriving DecidableEq

namespace HashMap

variable {κ : Type u} {ν : Type v} {ω : Type w}

def empty : HashMap κ ν where
  entries := []
  nodup := by simp

instance : EmptyCollection (HashMap κ ν) := ⟨empty⟩

instance : Inhabited (HashMap κ ν) := ⟨empty⟩

def keys (map : HashMap κ ν) : List κ :=
  map.entries.map Prod.fst

/-- Two maps with the same entries, iterated in any two orders. -/
def Reorders (left right : HashMap κ ν) : Prop :=
  left.entries.Perm right.entries

def retain (map : HashMap κ ν) (keep : κ → ν → Bool) : HashMap κ ν where
  entries := map.entries.filter fun entry => keep entry.1 entry.2
  nodup := map.nodup.sublist (List.filter_sublist.map Prod.fst)

def mapValues (map : HashMap κ ν) (update : ν → ω) : HashMap κ ω where
  entries := map.entries.map fun entry => (entry.1, update entry.2)
  nodup := by simpa [List.map_map, Function.comp_def] using map.nodup

@[simp] theorem keys_mapValues (map : HashMap κ ν) (update : ν → ω) :
    (map.mapValues update).keys = map.keys := by
  simp [keys, mapValues, map_map, comp_def]

variable [DecidableEq κ]

def get? (map : HashMap κ ν) (key : κ) : Option ν :=
  map.entries.lookup key

def contains (map : HashMap κ ν) (key : κ) : Bool :=
  (map.get? key).isSome

def upsertEntries (key : κ) (update : Option ν → ν) :
    List (κ × ν) → List (κ × ν)
  | [] => [(key, update none)]
  | (other, value) :: rest =>
    if other = key then (key, update (some value)) :: rest
    else (other, value) :: upsertEntries key update rest

theorem upsertEntries_keys (key : κ) (update : Option ν → ν) (entries : List (κ × ν)) :
    (upsertEntries key update entries).map Prod.fst =
      if key ∈ entries.map Prod.fst then entries.map Prod.fst
      else entries.map Prod.fst ++ [key] := by
  induction entries with
  | nil => simp [upsertEntries]
  | cons entry rest induction =>
    rcases entry with ⟨other, value⟩
    by_cases equal : other = key
    · simp [upsertEntries, equal]
    · by_cases member : key ∈ rest.map Prod.fst
      · rw [if_pos member] at induction
        simp [upsertEntries, equal, induction, member]
      · rw [if_neg member] at induction
        simp [upsertEntries, equal, induction, member, Ne.symm equal]

/-- `entry(key)` followed by an update of the present or missing value. -/
def upsert (map : HashMap κ ν) (key : κ) (update : Option ν → ν) : HashMap κ ν where
  entries := upsertEntries key update map.entries
  nodup := by
    rw [upsertEntries_keys]
    split
    · exact map.nodup
    · next absent =>
      refine List.nodup_append.mpr ⟨map.nodup, by simp, ?_⟩
      intro left leftMember right rightMember equal
      rw [List.mem_singleton] at rightMember
      exact absent (rightMember ▸ equal ▸ leftMember)

def insert (map : HashMap κ ν) (key : κ) (value : ν) : HashMap κ ν :=
  map.upsert key fun _ => value

def remove (map : HashMap κ ν) (key : κ) : HashMap κ ν where
  entries := map.entries.filter fun entry => entry.1 ≠ key
  nodup := map.nodup.sublist (List.filter_sublist.map Prod.fst)

/-- Collecting key-value pairs, later ones replacing earlier ones. -/
def ofList (entries : List (κ × ν)) : HashMap κ ν :=
  entries.foldl (fun map entry => map.insert entry.1 entry.2) empty

/-! ## Lookup -/

@[simp] theorem get?_empty (key : κ) : (empty : HashMap κ ν).get? key = none := rfl

theorem lookup_cons (key other : κ) (value : ν) (rest : List (κ × ν)) :
    ((other, value) :: rest).lookup key =
      if key = other then some value else rest.lookup key := by
  by_cases equal : key = other
  · simp [equal]
  · have differs : (key == other) = false := by simpa using equal
    simp [List.lookup_cons, differs, equal]

variable {entries : List (κ × ν)} {key other : κ} {value : ν} {map : HashMap κ ν}

theorem lookup_eq_some_iff
    (nodup : (entries.map Prod.fst).Nodup) :
    entries.lookup key = some value ↔ (key, value) ∈ entries := by
  induction entries with
  | nil => simp
  | cons entry rest induction =>
    rcases entry with ⟨other, found⟩
    rw [map_cons, nodup_cons] at nodup
    by_cases equal : key = other
    · subst other
      have absent : (key, value) ∉ rest := fun member =>
        nodup.1 (mem_map.mpr ⟨_, member, rfl⟩)
      simp [absent, eq_comm]
    · simp [lookup_cons, equal, induction nodup.2]

theorem get?_eq_some_iff : map.get? key = some value ↔ (key, value) ∈ map.entries :=
  lookup_eq_some_iff map.nodup

open Option

theorem get?_eq_none_iff : map.get? key = none ↔ key ∉ map.keys := by
  rw [eq_none_iff_forall_ne_some, keys, List.mem_map]
  constructor
  · rintro missing ⟨⟨other, value⟩, member, rfl⟩
    exact missing value (get?_eq_some_iff.mpr member)
  · intro absent value found
    exact absent ⟨(key, value), get?_eq_some_iff.mp found, rfl⟩

theorem get?_retain (map : HashMap κ ν) (keep : κ → ν → Bool) (key : κ) :
    (map.retain keep).get? key = (map.get? key).filter (keep key) := by
  ext value
  rw [filter_eq_some_iff, get?_eq_some_iff, get?_eq_some_iff, retain, mem_filter]

theorem contains_iff : map.contains key = true ↔ key ∈ map.keys := by
  rw [contains, ← not_iff_not, Bool.not_eq_true, isSome_eq_false_iff,
    isNone_iff_eq_none]
  exact get?_eq_none_iff

theorem lookup_upsertEntries (key other : κ) (update : Option ν → ν)
    (entries : List (κ × ν)) : (upsertEntries key update entries).lookup other =
      if other = key then some (update (entries.lookup key)) else entries.lookup other := by
  induction entries with
  | nil =>
    by_cases equal : other = key <;> simp [upsertEntries, lookup_cons, equal]
  | cons entry rest induction =>
    rcases entry with ⟨head, value⟩
    by_cases same : head = key
    · subst head
      by_cases equal : other = key <;> simp [upsertEntries, lookup_cons, equal]
    · by_cases equal : other = head
      · subst head
        simp [upsertEntries, same]
      · simp [upsertEntries, lookup_cons, same, equal, Ne.symm same, induction]

section

variable (map : HashMap κ ν) (key other : κ)

theorem get?_upsert (update : Option ν → ν) :
    (map.upsert key update).get? other =
      if other = key then some (update (map.get? key)) else map.get? other :=
  lookup_upsertEntries key other update map.entries

theorem get?_insert (value : ν) :
    (map.insert key value).get? other =
      if other = key then some value else map.get? other :=
  get?_upsert map key other _

theorem get?_remove :
    (map.remove key).get? other = if other = key then none else map.get? other := by
  by_cases equal : other = key
  · rw [if_pos equal, eq_none_iff_forall_ne_some]
    intro value found
    simpa [remove, equal] using get?_eq_some_iff.mp found
  · rw [if_neg equal]
    apply ext
    intro value
    rw [get?_eq_some_iff, get?_eq_some_iff]
    simp [remove, equal]

end

theorem get?_mapValues (map : HashMap κ ν) (update : ν → ω) (key : κ) :
    (map.mapValues update).get? key = (map.get? key).map update := by
  apply ext
  intro value
  rw [get?_eq_some_iff, map_eq_some_iff]
  simp only [mapValues, List.mem_map, Prod.mk.injEq]
  constructor
  · rintro ⟨⟨other, original⟩, member, rfl, rfl⟩
    exact ⟨original, get?_eq_some_iff.mpr member, rfl⟩
  · rintro ⟨original, found, rfl⟩
    exact ⟨(key, original), get?_eq_some_iff.mp found, rfl, rfl⟩

theorem mem_keys_upsert {update : Option ν → ν} :
    other ∈ (map.upsert key update).keys ↔ other = key ∨ other ∈ map.keys := by
  unfold keys upsert
  rw [upsertEntries_keys]
  split
  · next member =>
    constructor
    · exact .inr
    · rintro (rfl | other)
      · exact member
      · exact other
  · simp [or_comm]

def insertAll (map : HashMap κ ν) (keys : List κ) (value : ν) : HashMap κ ν :=
  keys.foldl (fun map key => map.insert key value) map

def removeAll (map : HashMap κ ν) (keys : List κ) : HashMap κ ν :=
  keys.foldl (fun map key => map.remove key) map

theorem get?_insertAll (map : HashMap κ ν) (keys : List κ) (value : ν) (other : κ) :
    (map.insertAll keys value).get? other =
      if other ∈ keys then some value else map.get? other := by
  rw [insertAll]
  induction keys generalizing map with
  | nil => simp
  | cons key rest induction =>
    rw [foldl_cons, induction, get?_insert]
    by_cases later : other ∈ rest
    · simp [later]
    · simp [later]

theorem get?_removeAll (map : HashMap κ ν) (keys : List κ) (other : κ) :
    (map.removeAll keys).get? other = if other ∈ keys then none else map.get? other := by
  rw [removeAll]
  induction keys generalizing map with
  | nil => simp
  | cons key rest induction =>
    rw [foldl_cons, induction, get?_remove]
    by_cases later : other ∈ rest
    · simp [later]
    · simp [later]

theorem mem_keys_iff : key ∈ map.keys ↔ (map.get? key).isSome = true :=
  contains_iff.symm

theorem mem_keys_insertAll {keys : List κ} :
    other ∈ (map.insertAll keys value).keys ↔ other ∈ keys ∨ other ∈ map.keys := by
  rw [mem_keys_iff, get?_insertAll, mem_keys_iff]
  by_cases member : other ∈ keys <;> simp [member]

theorem mem_keys_removeAll {keys : List κ} :
    other ∈ (map.removeAll keys).keys ↔ other ∉ keys ∧ other ∈ map.keys := by
  rw [mem_keys_iff, get?_removeAll, mem_keys_iff]
  by_cases member : other ∈ keys <;> simp [member]

def insertBatches (map : HashMap κ ν) (batches : List (List κ × ν)) : HashMap κ ν :=
  batches.foldl (fun map batch => map.insertAll batch.1 batch.2) map

theorem insertBatches_concat (map : HashMap κ ν) (batches : List (List κ × ν))
    (batch : List κ × ν) : map.insertBatches (batches ++ [batch]) =
      (map.insertBatches batches).insertAll batch.1 batch.2 := by
  simp [insertBatches]

theorem get?_insertBatches (map : HashMap κ ν) (batches : List (List κ × ν)) (key : κ) :
    ((∀ batch ∈ batches, key ∉ batch.1) ∧ (map.insertBatches batches).get? key = map.get? key) ∨
    ∃ batch ∈ batches, key ∈ batch.1 ∧ (map.insertBatches batches).get? key = some batch.2 := by
  induction batches using reverseRecOn with
  | nil => exact .inl ⟨by simp, rfl⟩
  | append_singleton batches batch induction =>
    rw [insertBatches_concat, get?_insertAll]
    by_cases member : key ∈ batch.1
    · exact .inr ⟨batch, by simp, member, by simp [member]⟩
    rw [if_neg member]
    rcases induction with ⟨absent, kept⟩ | ⟨earlier, listed, inside, found⟩
    · left
      refine ⟨?_, kept⟩
      intro other listed
      rcases mem_append.mp listed with early | last
      · exact absent other early
      · rw [mem_singleton] at last
        exact last ▸ member
    · exact .inr ⟨earlier, mem_append_left _ listed, inside, found⟩

theorem get?_foldl_insert (map : HashMap κ ν)
    (nodup : (entries.map Prod.fst).Nodup) (key : κ) :
    (entries.foldl (fun map entry => map.insert entry.1 entry.2) map).get? key =
      (entries.lookup key).or (map.get? key) := by
  induction entries generalizing map with
  | nil => rfl
  | cons entry rest induction =>
    rcases entry with ⟨other, value⟩
    rw [map_cons, nodup_cons] at nodup
    rw [foldl_cons, induction _ nodup.2, get?_insert, lookup_cons]
    by_cases equal : key = other
    · subst equal
      have missing : rest.lookup key = none := by
        rw [lookup_eq_none_iff]
        intro later member
        have differs : key ≠ later.1 := by
          intro same
          exact nodup.1 (mem_map.mpr ⟨later, member, same.symm⟩)
        simpa using differs
      simp [missing]
    · simp [equal]

theorem get?_ofList (nodup : (entries.map Prod.fst).Nodup) (key : κ) :
    (ofList entries).get? key = entries.lookup key := by
  rw [ofList, get?_foldl_insert _ nodup, get?_empty, or_none]

theorem upsertEntries_of_absent (update : Option ν → ν)
    (absent : key ∉ entries.map Prod.fst) :
    upsertEntries key update entries = entries ++ [(key, update none)] := by
  induction entries with
  | nil => rfl
  | cons entry rest induction =>
    rw [map_cons, mem_cons, not_or] at absent
    rw [upsertEntries, if_neg (Ne.symm absent.1), induction absent.2]
    rfl

theorem entries_insert_of_absent (map : HashMap κ ν)
    (absent : key ∉ map.entries.map Prod.fst) (value : ν) :
    (map.insert key value).entries = map.entries ++ [(key, value)] :=
  upsertEntries_of_absent _ absent

omit [DecidableEq κ] in
theorem eq_of_entries {left right : HashMap κ ν} (same : left.entries = right.entries) :
    left = right := by
  cases left
  cases right
  cases same
  rfl

theorem ofList_entries (map : HashMap κ ν) : ofList map.entries = map := by
  have appended : ∀ (rest : List (κ × ν)) (seen : HashMap κ ν),
      ((seen.entries ++ rest).map Prod.fst).Nodup →
      (rest.foldl (fun map entry => map.insert entry.1 entry.2) seen).entries =
        seen.entries ++ rest := by
    intro rest
    induction rest with
    | nil => simp
    | cons entry rest induction =>
      intro seen nodup
      have absent : entry.1 ∉ seen.entries.map Prod.fst := by
        rw [map_append, map_cons] at nodup
        exact fun member => (nodup_append.mp nodup).2.2 _ member _ mem_cons_self rfl
      have grown := entries_insert_of_absent seen absent entry.2
      rw [foldl_cons, induction _ (by simpa [grown] using nodup), grown]
      simp
  have whole := appended map.entries empty map.nodup
  exact eq_of_entries whole

theorem get?_ofList_map [BEq κ] [LawfulBEq κ] {values : List ν} {view : ν → κ}
    (nodup : (values.map view).Nodup) (key : κ) :
    (ofList (values.map fun value => (view value, value))).get? key =
      values.find? fun value => view value == key := by
  rw [get?_ofList (by simpa [comp_def] using nodup)]
  clear nodup
  induction values with
  | nil => rfl
  | cons value rest induction =>
    rw [map_cons, lookup_cons, induction, find?_cons]
    by_cases equal : view value = key
    · simp [equal]
    · have differs : (view value == key) = false := by simpa using equal
      rw [if_neg (Ne.symm equal), differs]

theorem get?_ofList_entries (map : HashMap κ ν) (store : κ → ν → ω) (key : κ) :
    (ofList (map.entries.map fun entry => (entry.1, store entry.1 entry.2))).get? key =
      (map.get? key).map (store key) := by
  have nodup : ((map.entries.map fun entry => (entry.1, store entry.1 entry.2)).map
      Prod.fst).Nodup := by
    simpa [comp_def] using map.nodup
  rw [get?_ofList nodup, get?]
  clear nodup
  induction map.entries with
  | nil => rfl
  | cons entry rest induction =>
    rcases entry with ⟨other, value⟩
    rw [map_cons, lookup_cons, lookup_cons, induction]
    by_cases equal : key = other
    · simp [equal]
    · simp [equal]

/-- With `entry(key).or_insert(value)` the first value for a key stays. -/
theorem get?_foldl_orInsert (values : List α) (view : α → κ) (store : α → ν)
    (map : HashMap κ ν) (key : κ) : (values.foldl (fun map value =>
        map.upsert (view value) fun existing => existing.getD (store value)) map).get? key =
      (map.get? key).or ((values.find? fun value => view value = key).map store) := by
  induction values generalizing map with
  | nil => simp
  | cons value rest induction =>
    rw [foldl_cons, induction, get?_upsert, find?_cons]
    by_cases equal : key = view value
    · subst equal
      cases map.get? (view value) <;> simp
    · simp [equal, Ne.symm equal]

theorem get?_ofList_last (values : List α) (view : α → κ) (store : α → ν) (key : κ) :
    (ofList (values.map fun value => (view value, store value))).get? key =
      ((values.filter fun value => view value = key).getLast?).map store := by
  induction values using reverseRecOn with
  | nil => rfl
  | append_singleton values value induction =>
    have last : ofList ((values ++ [value]).map fun value => (view value, store value)) =
        (ofList (values.map fun value => (view value, store value))).insert
          (view value) (store value) := by
      simp [ofList]
    rw [last, get?_insert, induction, filter_append]
    by_cases equal : view value = key
    · simp [equal]
    · simp [equal, Ne.symm equal]

/-! ## Iteration order -/

theorem Reorders.get?_eq {left right : HashMap κ ν} (reorders : left.Reorders right)
    (key : κ) : left.get? key = right.get? key := by
  apply ext
  intro value
  rw [get?_eq_some_iff, get?_eq_some_iff]
  exact Perm.mem_iff reorders

theorem reorders_iff {left right : HashMap κ ν} :
    left.Reorders right ↔ ∀ key, left.get? key = right.get? key := by
  refine ⟨Reorders.get?_eq, ?_⟩
  intro same
  apply (perm_ext_iff_of_nodup (Nodup.of_map _ left.nodup) (Nodup.of_map _ right.nodup)).mpr
  rintro ⟨key, value⟩
  rw [← get?_eq_some_iff, ← get?_eq_some_iff, same]

omit [DecidableEq κ] in
theorem exists_reorders_last (member : entry ∈ map.entries) :
    ∃ (reordered : HashMap κ ν) (before : List (κ × ν)),
      reordered.Reorders map ∧ reordered.entries = before ++ [entry] := by
  rcases append_of_mem member with ⟨before, after, split⟩
  have moved : ((before ++ after) ++ [entry]).Perm map.entries := by
    rw [split, append_assoc]
    exact Perm.append_left before perm_append_comm
  have nodup : (((before ++ after) ++ [entry]).map Prod.fst).Nodup :=
    (moved.map Prod.fst).nodup_iff.mpr map.nodup
  exact ⟨⟨_, nodup⟩, before ++ after, moved, rfl⟩

/-! ## One entry more -/

theorem entries_perm_cons {rest : HashMap κ ν}
    (absent : rest.get? key = none)
    (found : ∀ other, map.get? other = if other = key then some value else rest.get? other) :
    map.entries.Perm ((key, value) :: rest.entries) := by
  have fresh : (key, value) ∉ rest.entries := by
    intro member
    rw [get?_eq_some_iff.mpr member] at absent
    cases absent
  apply (perm_ext_iff_of_nodup (Nodup.of_map _ map.nodup)
    (nodup_cons.mpr ⟨fresh, Nodup.of_map _ rest.nodup⟩)).mpr
  rintro ⟨other, kept⟩
  rw [← get?_eq_some_iff, found, mem_cons, ← get?_eq_some_iff, Prod.mk.injEq]
  by_cases equal : other = key
  · subst equal
    simp [absent, eq_comm]
  · simp [equal]

theorem perm_cons_remove
    (found : map.get? key = some value) :
    map.entries.Perm ((key, value) :: (map.remove key).entries) := by
  apply entries_perm_cons
  · rw [get?_remove, if_pos rfl]
  · intro other
    rw [get?_remove]
    by_cases equal : other = key
    · simp [equal, found]
    · simp [equal]

theorem insert_perm_cons (absent : map.get? key = none)
    (value : ν) : (map.insert key value).entries.Perm ((key, value) :: map.entries) :=
  entries_perm_cons absent fun other => get?_insert map key other value

end HashMap

end PertiskProxy
