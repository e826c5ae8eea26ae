import PertiskProxy.Foundation.Fallible
import PertiskProxy.Foundation.HashMap
import PertiskProxy.Foundation.Text

/-! Values of JSON, and codecs for records and enumerations as a derived serializer makes
them: one description of the members of a record gives both directions, and says for each
member what is left out and what stands for it when it is missing. -/

namespace PertiskProxy

open List Option

inductive Json where
  | null
  | bool (value : Bool)
  | number (value : Int)
  | string (value : Text)
  | array (items : List Json)
  | object (members : List (Text × Json))

structure Codec (α : Type) where
  encode : α → Json
  decode : Json → Option α

/-- The description of members of a record: how they are written for a value of `σ`,
and how a value of `α` is read from those that are found. -/
structure Members (σ α : Type) where
  names : List Text
  write : σ → List (Text × Json)
  read : (Text → Option Json) → Option α
  /-- What is to be read back from the members written for a value. -/
  echo : σ → α

namespace Members

variable {σ α β γ : Type}

def always (value : α) : Members σ α where
  names := []
  write _ := []
  read _ := some value
  echo _ := value

def and (known : Members σ (β → γ)) (next : Members σ β) : Members σ γ where
  names := known.names ++ next.names
  write value := known.write value ++ next.write value
  read find := do
    let make ← known.read find
    let argument ← next.read find
    some (make argument)
  echo value := known.echo value (next.echo value)

def required (name : Text) (codec : Codec β) (view : σ → β) : Members σ β where
  names := [name]
  write value := [(name, codec.encode (view value))]
  read find := (find name).bind codec.decode
  echo := view

/-- A member that is left out on a condition, with a default for when it is missing. -/
def skipped (name : Text) (codec : Codec β) (skip : β → Bool) (fallback : β) (view : σ → β) :
    Members σ β where
  names := [name]
  write value := if skip (view value) then [] else [(name, codec.encode (view value))]
  read find :=
    match find name with
    | none => some fallback
    | some json => codec.decode json
  echo := view

/-- A member that is always written, with a default for when it is missing. -/
def defaulted (name : Text) (codec : Codec β) (fallback : β) (view : σ → β) : Members σ β :=
  skipped name codec (fun _ => false) fallback view

def part (members : Members σ α) (view : β → σ) (wrap : α → γ) : Members β γ where
  names := members.names
  write value := members.write (view value)
  read find := (members.read find).map wrap
  echo value := wrap (members.echo (view value))

end Members

namespace Codec

variable {α ν σ : Type}

def text : Codec Text where
  encode := .string
  decode
    | .string value => some value
    | _ => none

def bool : Codec Bool where
  encode := .bool
  decode
    | .bool value => some value
    | _ => none

def unsigned (largest : Nat) : Codec Nat where
  encode value := .number value
  decode
    | .number value => if 0 ≤ value ∧ value ≤ largest then some value.toNat else none
    | _ => none

def list (item : Codec α) : Codec (List α) where
  encode values := .array (values.map item.encode)
  decode
    | .array items => items.mapM item.decode
    | _ => none

def option (inner : Codec α) : Codec (Option α) where
  encode
    | none => .null
    | some value => inner.encode value
  decode
    | .null => some none
    | json => (inner.decode json).map some

/-- A map with text keys; of several members with one name the last one counts. -/
def map (value : Codec ν) : Codec (HashMap Text ν) where
  encode map := .object (map.entries.map fun entry => (entry.1, value.encode entry.2))
  decode
    | .object members =>
      (members.mapM fun entry => (value.decode entry.2).map fun found => (entry.1, found)).map
        HashMap.ofList
    | _ => none

def enumeration (name : α → Text) (values : List α) : Codec α where
  encode value := .string (name value)
  decode
    | .string found => values.find? fun value => name value = found
    | _ => none

/-- The members of a record in one object. Others are ignored, and none of them may
stand there twice. -/
def readObject (members : Members σ α) (object : List (Text × Json)) : Option α :=
  if ((object.map Prod.fst).filter (members.names.contains ·)).Nodup then
    members.read fun name => object.lookup name
  else none

def record (members : Members α α) : Codec α where
  encode value := .object (members.write value)
  decode
    | .object object => readObject members object
    | _ => none

/-- An enumeration with data: the name of the variant is one more member. -/
def tagged (tag : Text) (kind : α → Text) (variant : Text → Option (Members α α)) : Codec α where
  encode value := .object ((tag, .string (kind value)) ::
    ((variant (kind value)).elim [] fun members => members.write value))
  decode
    | .object object =>
      match object.lookup tag with
      | some (.string name) => (variant name).bind fun members =>
        readObject { members with names := tag :: members.names } object
      | _ => none
    | _ => none

def Restores (codec : Codec α) (value : α) : Prop :=
  codec.decode (codec.encode value) = some value

@[simp] theorem restores_text (value : Text) : text.Restores value := rfl

@[simp] theorem restores_bool (value : Bool) : bool.Restores value := rfl

theorem restores_unsigned (fits : value ≤ largest) : (unsigned largest).Restores value := by
  have range : (0 : Int) ≤ value ∧ (value : Int) ≤ largest := by omega
  simp only [Restores, unsigned, if_pos range, Int.toNat_natCast]

theorem restores_list {item : Codec α} {values : List α}
    (restores : ∀ value ∈ values, item.Restores value) : (list item).Restores values := by
  have each : Forall₂ (fun json value => item.decode json = some value)
      (values.map item.encode) values := by
    rw [forall₂_map_left_iff, forall₂_same]
    exact restores
  exact Fallible.mapM_eq_some_iff.mpr each

/-- No value is encoded as null, so that an optional one is not mistaken for a missing
one. -/
def NeverNull (codec : Codec α) : Prop :=
  ∀ value, codec.encode value ≠ .null

theorem neverNull_text : text.NeverNull := fun _ => Json.noConfusion

theorem neverNull_bool : bool.NeverNull := fun _ => Json.noConfusion

theorem neverNull_unsigned (largest : Nat) : (unsigned largest).NeverNull :=
  fun _ => Json.noConfusion

theorem neverNull_map (value : Codec ν) : (map value).NeverNull := fun _ => Json.noConfusion

theorem neverNull_record (members : Members α α) : (record members).NeverNull :=
  fun _ => Json.noConfusion

theorem neverNull_tagged (tag : Text) (kind : α → Text)
    (variant : Text → Option (Members α α)) : (tagged tag kind variant).NeverNull :=
  fun _ => Json.noConfusion

theorem restores_option {inner : Codec α} (never : inner.NeverNull) {value : Option α}
    (restores : ∀ found ∈ value, inner.Restores found) : (option inner).Restores value := by
  cases value with
  | none => rfl
  | some found =>
    have restored := restores found rfl
    have present := never found
    change (match inner.encode found with
      | .null => some none
      | json => (inner.decode json).map some) = some (some found)
    split
    · next null => exact absurd null present
    · rw [restored]
      rfl

theorem restores_map {value : Codec ν} {map : HashMap Text ν}
    (restores : ∀ entry ∈ map.entries, value.Restores entry.2) :
    (Codec.map value).Restores map := by
  have each : Forall₂
      (fun member entry => ((value.decode member.2).map fun found => (member.1, found)) = some entry)
      (map.entries.map fun entry => (entry.1, value.encode entry.2)) map.entries := by
    rw [forall₂_map_left_iff, forall₂_same]
    intro entry member
    rw [restores entry member]
    rfl
  change Option.map HashMap.ofList (mapM _ _) = some map
  rw [Fallible.mapM_eq_some_iff.mpr each]
  exact congrArg some (HashMap.ofList_entries map)

end Codec

namespace Members

variable {σ α β γ : Type}

/-- What is written for a value is read back, provided that the members have names of
their own. -/
structure Recovers (members : Members σ α) (value : σ) : Prop where
  named : ∀ entry ∈ members.write value, entry.1 ∈ members.names
  once : members.names.Nodup → ((members.write value).map Prod.fst).Nodup
  read : members.names.Nodup → ∀ find : Text → Option Json,
    (∀ name ∈ members.names, find name = (members.write value).lookup name) →
    members.read find = some (members.echo value)

theorem recovers_always (value : σ) (result : α) :
    (always result : Members σ α).Recovers value where
  named _ member := by cases member
  once _ := nodup_nil
  read _ _ _ := rfl

theorem lookup_append_left {left right : List (Text × Json)} {name : Text}
    (absent : ∀ entry ∈ right, entry.1 ≠ name) :
    (left ++ right).lookup name = left.lookup name := by
  have missing : right.lookup name = none := by
    rw [lookup_eq_none_iff]
    intro entry member
    simpa using (absent entry member).symm
  rw [lookup_append, missing, or_none]

theorem lookup_append_right {left right : List (Text × Json)} {name : Text}
    (absent : ∀ entry ∈ left, entry.1 ≠ name) :
    (left ++ right).lookup name = right.lookup name := by
  have missing : left.lookup name = none := by
    rw [lookup_eq_none_iff]
    intro entry member
    simpa using (absent entry member).symm
  rw [lookup_append, missing, none_or]

theorem Recovers.and {known : Members σ (β → γ)} {next : Members σ β} {value : σ}
    (first : known.Recovers value) (second : next.Recovers value) :
    (known.and next).Recovers value where
  named entry member := by
    rcases mem_append.mp member with early | late
    · exact mem_append_left _ (first.named entry early)
    · exact mem_append_right _ (second.named entry late)
  once nodup := by
    rcases nodup_append.mp nodup with ⟨nodupKnown, nodupNext, apart⟩
    change ((known.write value ++ next.write value).map Prod.fst).Nodup
    rw [map_append, nodup_append]
    refine ⟨first.once nodupKnown, second.once nodupNext, ?_⟩
    intro left leftMember right rightMember
    rcases mem_map.mp leftMember with ⟨early, earlyMember, rfl⟩
    rcases mem_map.mp rightMember with ⟨late, lateMember, rfl⟩
    exact apart _ (first.named early earlyMember) _ (second.named late lateMember)
  read nodup find found := by
    rcases nodup_append.mp nodup with ⟨nodupKnown, nodupNext, apart⟩
    have readKnown : known.read find = some (known.echo value) := by
      apply first.read nodupKnown
      intro name listed
      rw [found name (mem_append_left _ listed)]
      refine lookup_append_left ?_
      intro entry member
      exact (apart name listed entry.1 (second.named entry member)).symm
    have readNext : next.read find = some (next.echo value) := by
      apply second.read nodupNext
      intro name listed
      rw [found name (mem_append_right _ listed)]
      refine lookup_append_right ?_
      intro entry member
      exact apart entry.1 (first.named entry member) name listed
    simp [Members.and, readKnown, readNext]

theorem recovers_skipped (restores : codec.Restores (view value))
    (default : skip (view value) = true → view value = fallback) :
    (skipped name codec skip fallback view).Recovers value where
  named entry member := by
    simp only [skipped] at member
    split at member
    · cases member
    · rw [mem_singleton.mp member]
      exact mem_singleton_self name
  once _ := by
    simp only [skipped]
    split <;> simp
  read _ find found := by
    have here := found name (mem_singleton_self name)
    simp only [skipped, here]
    by_cases skipping : skip (view value) = true
    · rw [if_pos skipping, default skipping]
      rfl
    · rw [if_neg skipping, lookup_cons_self]
      exact restores

theorem recovers_defaulted (restores : codec.Restores (view value)) :
    (defaulted name codec fallback view).Recovers value :=
  recovers_skipped restores fun skipping => by cases skipping

theorem recovers_required (restores : codec.Restores (view value)) :
    (required name codec view).Recovers value where
  named entry member := by
    rw [mem_singleton.mp member]
    exact mem_singleton_self name
  once _ := nodup_singleton name
  read _ find found := by
    have here := found name (mem_singleton_self name)
    simp only [required, here, lookup_cons_self, bind_some]
    exact restores

theorem Recovers.part {members : Members σ α} {view : β → σ} {wrap : α → γ} {value : β}
    (recovers : members.Recovers (view value)) : (members.part view wrap).Recovers value where
  named := recovers.named
  once := recovers.once
  read nodup find found := by
    simp [Members.part, recovers.read nodup find found]

end Members

namespace Codec

open Members

variable {α : Type}

theorem restores_record (nodup : members.names.Nodup) (same : members.echo value = value)
    (recovers : members.Recovers value) : (record members).Restores value := by
  change readObject members (members.write value) = some value
  rw [readObject, if_pos ((recovers.once nodup).sublist filter_sublist)]
  exact (recovers.read nodup _ fun _ _ => rfl).trans (congrArg some same)

theorem restores_tagged (found : variant (kind value) = some members)
    (nodup : (tag :: members.names).Nodup) (same : members.echo value = value)
    (recovers : members.Recovers value) : (tagged tag kind variant).Restores value := by
  rcases nodup_cons.mp nodup with ⟨apart, nodup⟩
  have once : (((tag, Json.string (kind value)) :: members.write value).map Prod.fst).Nodup := by
    rw [map_cons, nodup_cons]
    refine ⟨?_, recovers.once nodup⟩
    intro member
    rcases mem_map.mp member with ⟨entry, written, rfl⟩
    exact apart (recovers.named entry written)
  have encoded : (tagged tag kind variant).encode value =
      .object ((tag, .string (kind value)) :: members.write value) := by
    simp [tagged, found]
  rw [Restores, encoded]
  simp only [tagged, lookup_cons_self, found, bind_some]
  rw [readObject, if_pos (once.sublist filter_sublist)]
  refine (recovers.read nodup _ ?_).trans (congrArg some same)
  intro name listed
  have differs : (name == tag) = false := by
    rw [beq_eq_false_iff_ne]
    exact fun same => apart (same ▸ listed)
  rw [lookup_cons, differs]

end Codec

end PertiskProxy
