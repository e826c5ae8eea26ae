import PertiskProxy.Foundation

/-! The parts of requests and responses the proxy reads, after the `http` crate: header
maps, request targets, and status codes. -/

namespace PertiskProxy.Http

open List

/-- A header map in insertion order, with lower-case names. -/
abbrev HeaderMap := List (Text × Bytes)

/-- `HeaderValue::to_str`: visible ASCII, space, and tab only. -/
def headerToStr (value : Bytes) : Option Text :=
  if value.all fun byte => (32 ≤ byte && byte < 127) || byte == 9 then
    some (value.map fun byte => Char.ofNat byte.toNat)
  else none

/-- `HeaderValue::try_from` a string: no control characters but the tab. -/
def headerValue (text : Text) : Option Bytes :=
  if text.asBytes.all fun byte => (32 ≤ byte && byte != 127) || byte == 9 then some text.asBytes
  else none

def isTokenChar (c : Char) : Bool :=
  c.isAlphanum || "!#$%&'*+-.^_`|~".toList.contains c

/-- `HeaderName::try_from` a string: a token, in lower case. -/
def headerName (text : Text) : Option Text :=
  if text.isEmpty || !text.all isTokenChar then none else some (Text.toAsciiLowercase text)

namespace HeaderMap

def get (headers : HeaderMap) (name : Text) : Option Bytes :=
  headers.lookup name

def getStr (headers : HeaderMap) (name : Text) : Option Text :=
  (headers.get name).bind headerToStr

def remove (headers : HeaderMap) (name : Text) : HeaderMap :=
  headers.filter fun header => header.1 ≠ name

/-- `insert_header(..).ok()`: replace every value under the name; an invalid
header changes nothing. -/
def insert (headers : HeaderMap) (header : Text × Text) : HeaderMap :=
  match headerName header.1, headerValue header.2 with
  | some name, some value => headers.remove name ++ [(name, value)]
  | _, _ => headers

end HeaderMap

/-- A request target. `pathAndQuery` is the raw text, which is empty in
authority form and may start with `?` in absolute form. -/
structure Uri where
  scheme : Option Text := none
  host : Option Text := none
  pathAndQuery : Text
deriving DecidableEq

namespace Uri

def hasPath (uri : Uri) : Bool :=
  !uri.pathAndQuery.isEmpty || uri.scheme.isSome

def path (uri : Uri) : Text :=
  if uri.hasPath then
    let path := Text.before '?' uri.pathAndQuery
    if path.isEmpty then "/" else path
  else []

def query (uri : Uri) : Option Text :=
  (Text.splitOnce '?' uri.pathAndQuery).map Prod.snd

def pathAndQueryStr (uri : Uri) : Option Text :=
  if uri.hasPath then
    some (if uri.pathAndQuery.isEmpty then "/".toList else uri.pathAndQuery)
  else none

end Uri

structure RequestHeader where
  method : Text
  uri : Uri
  headers : HeaderMap := []
deriving DecidableEq

/-- The host a request is for: the `Host` header without its port, else the
authority of the target. -/
def requestHost (req : RequestHeader) : Text :=
  match Text.trimmedNonEmpty (req.headers.getStr "host") with
  | some host => Text.before ':' host
  | none => req.uri.host.getD []

/-- The path and query a request is routed by. -/
def RequestHeader.target (req : RequestHeader) : Text :=
  req.uri.pathAndQueryStr.getD req.uri.path

structure ResponseHeader where
  status : Nat
  headers : HeaderMap := []
deriving DecidableEq

def ResponseHeader.isSuccess (response : ResponseHeader) : Bool :=
  200 ≤ response.status && response.status < 300

/-! Filters change a header map one name at a time: they set a name to one value, or take
it away. -/

namespace HeaderMap

def values (headers : HeaderMap) (name : Text) : List Bytes :=
  (headers.filter fun header => header.1 = name).map Prod.snd

theorem values_append (first second : HeaderMap) (name : Text) :
    values (first ++ second) name = first.values name ++ second.values name := by
  simp [values]

theorem values_eq_nil {headers : HeaderMap} {name : Text} :
    headers.values name = [] ↔ ∀ header ∈ headers, header.1 ≠ name := by
  simp [values, filter_eq_nil_iff]

theorem get_eq_head?_values (headers : HeaderMap) (name : Text) :
    headers.get name = (headers.values name).head? := by
  unfold get values
  induction headers with
  | nil => rfl
  | cons header rest induction =>
    rcases header with ⟨field, value⟩
    by_cases same : field = name
    · subst same
      rw [lookup_cons_self, filter_cons_of_pos (by simp)]
      rfl
    · have skipped : (name == field) = false := by simpa using Ne.symm same
      rw [lookup_cons, skipped, filter_cons_of_neg (by simpa using same)]
      exact induction

theorem getStr_eq_of_values {left right : HeaderMap}
    (same : left.values name = right.values name) : left.getStr name = right.getStr name := by
  rw [getStr, getStr, get_eq_head?_values, get_eq_head?_values, same]

/-- What a filter leaves under each name when it writes one; nothing where it leaves the
values as they are. -/
def writes (field : Text) (values : List Bytes) (name : Text) : Option (List Bytes) :=
  if field = name then some values else none

def takesAway (fields : List Text) (name : Text) : Option (List Bytes) :=
  if fields.contains name then some [] else none

/-- The last valid one of the headers with a name is written. -/
def sets : List (Text × Text) → Text → Option (List Bytes)
  | [], _ => none
  | header :: rest, name =>
    (sets rest name).or
      (if headerName header.1 = some name then (headerValue header.2).map ([·]) else none)

theorem writes_or (field : Text) (first second : List Bytes) (name : Text) :
    (writes field first name).or (writes field second name) = writes field first name := by
  unfold writes
  split <;> rfl

theorem sets_eq_none {headers : List (Text × Text)}
    (unset : ∀ header ∈ headers, headerName header.1 ≠ some name) : sets headers name = none := by
  induction headers with
  | nil => rfl
  | cons header rest induction =>
    rw [forall_mem_cons] at unset
    rw [sets, induction unset.2, if_neg unset.1]
    rfl

theorem sets_ne_nil (headers : List (Text × Text)) (name : Text) :
    sets headers name ≠ some [] := by
  induction headers with
  | nil => nofun
  | cons header rest induction =>
    rw [sets, ne_eq, Option.or_eq_some_iff, not_or]
    refine ⟨induction, ?_⟩
    rintro ⟨-, set⟩
    split at set
    · simp at set
    · cases set

theorem values_remove (headers : HeaderMap) (field name : Text) :
    values (headers.remove field) name =
      (writes field [] name).getD (headers.values name) := by
  rw [values, remove, filter_filter, writes]
  by_cases same : field = name
  · subst same
    simp
  · rw [if_neg same]
    congr 1
    apply filter_congr
    intro header _
    by_cases hit : header.1 = name
    · simp [hit, Ne.symm same]
    · simp [hit]

theorem values_remove_of_ne (different : field ≠ name) (headers : HeaderMap) :
    values (headers.remove field) name = headers.values name := by
  rw [values_remove, writes, if_neg different]
  rfl

theorem values_insert (headers : HeaderMap) (header : Text × Text) (name : Text) :
    values (headers.insert header) name = Option.getD
      (if headerName header.1 = some name then (headerValue header.2).map ([·]) else none)
      (headers.values name) := by
  unfold insert
  cases headerName header.1 with
  | none => rfl
  | some field =>
    cases headerValue header.2 with
    | none =>
      rw [Option.map_none, ite_self]
      rfl
    | some value =>
      simp only [values_append, values_remove, writes, Option.some.injEq, Option.map_some]
      by_cases same : field = name <;> simp [values, same]

theorem values_insert_of_ne (different : headerName field ≠ some name) (text : Text)
    (headers : HeaderMap) : values (headers.insert (field, text)) name = headers.values name := by
  rw [values_insert, if_neg different]
  rfl

theorem values_insert_valid (named : headerName field = some lower)
    (valued : headerValue text = some value) (headers : HeaderMap) (name : Text) :
    values (headers.insert (field, text)) name =
      (writes lower [value] name).getD (headers.values name) := by
  rw [values_insert, named, valued, writes]
  simp only [Option.some.injEq, Option.map_some]

theorem values_foldl_insert (inserted : List (Text × Text)) (headers : HeaderMap) (name : Text) :
    values (inserted.foldl insert headers) name =
      (sets inserted name).getD (headers.values name) := by
  induction inserted generalizing headers with
  | nil => rfl
  | cons header rest induction =>
    rw [foldl_cons, induction, values_insert, sets]
    cases sets rest name <;> rfl

theorem values_foldl_remove (removed : List Text) (headers : HeaderMap) (name : Text) :
    values (removed.foldl remove headers) name =
      (takesAway removed name).getD (headers.values name) := by
  induction removed generalizing headers with
  | nil => rfl
  | cons first rest induction =>
    rw [foldl_cons, induction, values_remove]
    unfold takesAway writes
    by_cases same : first = name
    · subst same
      cases rest.contains first <;> simp
    · simp [same, Ne.symm same]

end HeaderMap

/-! Header maps whose lines remember who gave them; the program keeps names and values
only. -/

/-- Who gives a header line: the client, the configuration of the route, or the
proxy itself. -/
inductive HeaderOrigin where
  | client
  | route
  | proxy
deriving DecidableEq

structure HeaderLine where
  name : Text
  value : Bytes
  origin : HeaderOrigin
deriving DecidableEq

def HeaderLine.parse (origin : HeaderOrigin) (header : Text × Text) : Option HeaderLine :=
  (headerName header.1).bind fun name =>
    (headerValue header.2).map fun value => { name, value, origin }

abbrev HeaderLines := List HeaderLine

namespace HeaderLines

def ofMap (headers : HeaderMap) : HeaderLines :=
  headers.map fun header => { name := header.1, value := header.2, origin := .client }

def named (lines : HeaderLines) (name : Text) : HeaderLines :=
  lines.filter fun line => line.name = name

def getStr (lines : HeaderLines) (name : Text) : Option Text :=
  (lines.named name).head?.bind fun line => headerToStr line.value

def remove (lines : HeaderLines) (name : Text) : HeaderLines :=
  lines.filter fun line => line.name ≠ name

/-- `insert_header(..).ok()`: replace every line of the name; an invalid header
changes nothing. -/
def insert (origin : HeaderOrigin) (lines : HeaderLines) (header : Text × Text) : HeaderLines :=
  match HeaderLine.parse origin header with
  | some line => lines.remove line.name ++ [line]
  | none => lines

/-- `RequestBuilder::header`: add a line; an invalid header spoils the request. -/
def append (origin : HeaderOrigin) (lines : HeaderLines) (header : Text × Text) :
    Option HeaderLines :=
  (HeaderLine.parse origin header).map fun line => lines ++ [line]

@[simp] theorem named_nil (name : Text) : named [] name = [] := rfl

theorem named_singleton (line : HeaderLine) (name : Text) :
    named [line] name = if line.name = name then [line] else [] := by
  by_cases same : line.name = name <;> simp [named, same]

@[simp] theorem named_append (left right : HeaderLines) (name : Text) :
    named (left ++ right) name = left.named name ++ right.named name :=
  filter_append left right

@[simp] theorem named_remove_self (lines : HeaderLines) (name : Text) :
    (lines.remove name).named name = [] := by
  simp [named, remove, filter_filter]

theorem named_remove_of_ne (different : other ≠ name) (lines : HeaderLines) :
    (lines.remove other).named name = lines.named name := by
  unfold named remove
  rw [filter_filter]
  apply filter_congr
  intro line _
  by_cases same : line.name = name
  · simp [same, different.symm]
  · simp [same]

theorem named_foldl_remove (names : List Text) (lines : HeaderLines) (name : Text) :
    (names.foldl remove lines).named name = if name ∈ names then [] else lines.named name := by
  induction names generalizing lines with
  | nil => simp
  | cons other names induction =>
    rw [foldl_cons, induction]
    by_cases same : other = name
    · simp [same]
    · simp [named_remove_of_ne same, Ne.symm same]

theorem named_insert_of_ne (different : headerName header.1 ≠ some name) (origin : HeaderOrigin)
    (lines : HeaderLines) : (lines.insert origin header).named name = lines.named name := by
  unfold insert
  split
  · next line parsed =>
    rcases Option.bind_eq_some_iff.mp parsed with ⟨found, known, valued⟩
    rcases Option.map_eq_some_iff.mp valued with ⟨value, -, rfl⟩
    have other : found ≠ name := fun same => different (same ▸ known)
    rw [named_append, named_remove_of_ne other]
    simp [named, other]
  · rfl

theorem named_insert (parsed : HeaderLine.parse origin header = some line) (lines : HeaderLines) :
    (lines.insert origin header).named line.name = [line] := by
  rw [insert, parsed]
  simp only [named_append, named_remove_self, nil_append]
  simp [named]

theorem name_of_parse (parsed : HeaderLine.parse origin header = some line) :
    headerName header.1 = some line.name ∧ headerValue header.2 = some line.value ∧
      line.origin = origin := by
  rcases Option.bind_eq_some_iff.mp parsed with ⟨name, named, valued⟩
  rcases Option.map_eq_some_iff.mp valued with ⟨value, valid, rfl⟩
  exact ⟨named, valid, rfl⟩

open HeaderLine

theorem named_parse_of_ne {headers : List (Text × Text)} {name : Text}
    (different : ∀ header ∈ headers, headerName header.1 ≠ some name) (origin : HeaderOrigin) :
    named (headers.filterMap (parse origin)) name = [] := by
  unfold named
  rw [filter_eq_nil_iff]
  intro line member same
  rcases mem_filterMap.mp member with ⟨header, listed, parsed⟩
  rw [decide_eq_true_eq] at same
  exact different header listed (same ▸ (name_of_parse parsed).1)

theorem named_foldl_insert (origin : HeaderOrigin) (headers : List (Text × Text))
    (lines : HeaderLines) (name : Text) : (headers.foldl (insert origin) lines).named name =
      match (named (headers.filterMap (parse origin)) name).getLast? with
      | some line => [line]
      | none => lines.named name := by
  induction headers using reverseRecOn with
  | nil => rfl
  | append_singleton headers header induction =>
    rw [foldl_append, foldl_cons, foldl_nil, filterMap_append, named_append]
    cases parsed : parse origin header with
    | none =>
      rw [insert, parsed, filterMap_cons_none parsed, filterMap_nil]
      simpa only [named_nil, append_nil] using induction
    | some line =>
      rw [filterMap_cons_some parsed, filterMap_nil, named_singleton]
      by_cases same : line.name = name
      · subst same
        rw [if_pos rfl, getLast?_concat]
        exact named_insert parsed _
      · have other : headerName header.1 ≠ some name := by
          rw [(name_of_parse parsed).1]
          simpa using same
        rw [if_neg same, append_nil, named_insert_of_ne other, induction]

theorem foldlM_append (origin : HeaderOrigin) (headers : List (Text × Text)) (lines : HeaderLines) :
    headers.foldlM (append origin) lines =
      (headers.mapM (parse origin)).map (lines ++ ·) := by
  induction headers generalizing lines with
  | nil => simp
  | cons header headers induction =>
    simp only [foldlM_cons, mapM_cons, append]
    cases parse origin header with
    | none => rfl
    | some line =>
      simp only [Option.map_some, Option.bind_eq_bind, Option.bind_some, induction]
      cases headers.mapM (parse origin) <;> simp

end HeaderLines

def Printable (text : Text) : Prop :=
  ∀ c ∈ text, (32 ≤ c.toNat ∧ c.toNat < 127) ∨ c.toNat = 9

theorem printable_of_all
    (all : text.all (fun c => decide ((32 ≤ c.toNat ∧ c.toNat < 127) ∨ c.toNat = 9)) = true) :
    Printable text :=
  fun c member => of_decide_eq_true (all_eq_true.mp all c member)

theorem printable_append (first : Printable left) (second : Printable right) :
    Printable (left ++ right) := by
  intro c member
  rcases mem_append.mp member with inside | inside
  · exact first c inside
  · exact second c inside

theorem printable_trim (printable : Printable text) : Printable (Text.trim text) :=
  fun c member => printable c (Text.mem_of_mem_trimMatches member)

theorem asBytes_of_printable (printable : Printable text) :
    text.asBytes = text.map fun c => UInt8.ofNat c.toNat := by
  induction text with
  | nil => rfl
  | cons c text induction =>
    have small : c.val.toNat ≤ 127 := by
      rcases printable c mem_cons_self with ⟨-, small⟩ | tab
      · exact Nat.le_of_lt small
      · exact Nat.le_trans (Nat.le_of_eq tab) (by decide)
    have first : String.utf8EncodeChar c = [UInt8.ofNat c.toNat] := by
      unfold String.utf8EncodeChar
      exact if_pos small
    have rest := induction fun other member => printable other (mem_cons_of_mem _ member)
    change String.utf8EncodeChar c ++ Text.asBytes text = _
    rw [first, rest]
    rfl

theorem headerValue_of_printable (printable : Printable text) :
    headerValue text = some text.asBytes := by
  unfold headerValue
  rw [if_pos]
  rw [asBytes_of_printable printable, all_map, all_eq_true]
  intro c member
  have valid : ∀ code < 127, 32 ≤ code ∨ code = 9 →
      ((32 ≤ UInt8.ofNat code && UInt8.ofNat code != 127) || UInt8.ofNat code == 9) = true := by
    decide
  rcases printable c member with ⟨large, small⟩ | tab
  · exact valid c.toNat small (.inl large)
  · exact valid c.toNat (by rw [tab]; decide) (.inr tab)

theorem HeaderLine.parse_of_printable {name lower text : Text}
    (named : headerName name = some lower) (printable : Printable text) (origin : HeaderOrigin) :
    parse origin (name, text) = some ⟨lower, text.asBytes, origin⟩ := by
  simp [parse, named, headerValue_of_printable printable]

theorem printable_of_headerToStr (found : headerToStr value = some text) : Printable text := by
  unfold headerToStr at found
  split at found
  · next visible =>
    cases found
    intro c member
    rcases mem_map.mp member with ⟨byte, inside, rfl⟩
    have shown := all_eq_true.mp visible byte inside
    simp only [Bool.or_eq_true, Bool.and_eq_true, decide_eq_true_eq, beq_iff_eq,
      UInt8.le_iff_toNat_le, UInt8.lt_iff_toNat_lt] at shown
    have kept : ∀ code < 127, (Char.ofNat code).toNat = code := by decide
    rcases shown with ⟨large, small⟩ | rfl
    · exact .inl (by rw [kept _ small]; exact ⟨large, small⟩)
    · exact .inr rfl
  · cases found

theorem headerValue_of_headerToStr (found : headerToStr value = some text) :
    headerValue text = some value := by
  rw [headerValue_of_printable (printable_of_headerToStr found),
    asBytes_of_printable (printable_of_headerToStr found)]
  unfold headerToStr at found
  split at found
  · next visible =>
    cases found
    rw [map_map, Option.some.injEq]
    refine (map_congr_left fun byte inside => ?_).trans (map_id value)
    have shown := all_eq_true.mp visible byte inside
    simp only [Bool.or_eq_true, Bool.and_eq_true, decide_eq_true_eq, beq_iff_eq,
      UInt8.lt_iff_toNat_lt] at shown
    have kept : ∀ code < 127, (Char.ofNat code).toNat = code := by decide
    have small : byte.toNat < 127 := by
      rcases shown with ⟨-, small⟩ | rfl
      · exact small
      · decide
    simp [kept _ small, id]
  · cases found

end PertiskProxy.Http
