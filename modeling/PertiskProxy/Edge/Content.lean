import Mathlib.Algebra.GroupWithZero.Nat
import PertiskProxy.Foundation

/-! Static files under a root and cached upstream responses (`edge/mod.rs`). -/

namespace PertiskProxy.Edge

open Text List

structure FilePath where
  root : Text
  parts : List Text
deriving DecidableEq

/-- The components of a relative path: empty and `.` elements are skipped, and
`..` is not accepted. -/
def normalParts (rel : Text) : Option (List Text) :=
  let elements := (rel.splitOn '/').filter fun part => !part.isEmpty && part != ".".toList
  if elements.any (· == "..".toList) then none else some elements

/-- The file a URL path stands for; the root itself stands for its index. -/
def safeFile (root urlPath : Text) : Option FilePath :=
  let rel := trimStartMatches (· == '/') (before '?' urlPath)
  if rel.any (· == '\x00') then none
  else
    (normalParts rel).map fun parts =>
      { root, parts := if parts.isEmpty then ["index.html"] else parts }

/-- The elements of a path that name something. -/
def pathElements (path : Text) : List Text :=
  (path.splitOn '/').filter fun part => !part.isEmpty && part != ".".toList

theorem mem_pathElements :
    part ∈ pathElements path ↔ part ∈ path.splitOn '/' ∧ part ≠ [] ∧ part ≠ ".".toList := by
  simp [pathElements]

theorem pathElements_append_slash (left right : Text) :
    pathElements (left ++ '/' :: right) = pathElements left ++ pathElements right := by
  rw [pathElements, splitOn_append_cons_self, filter_append]
  rfl

theorem pathElements_slash (path : Text) : pathElements ('/' :: path) = pathElements path :=
  pathElements_append_slash [] path

theorem pathElements_trimStart (path : Text) :
    pathElements (trimStartMatches (· == '/') path) = pathElements path := by
  unfold trimStartMatches
  induction path with
  | nil => rfl
  | cons first rest induction =>
    by_cases slash : first = '/'
    · subst slash
      rw [dropWhile_cons_of_pos (by decide), induction, pathElements_slash]
    · rw [dropWhile_cons_of_neg (by simpa using slash)]

theorem parent_mem_pathElements :
    "..".toList ∈ pathElements path ↔ "..".toList ∈ path.splitOn '/' := by
  rw [mem_pathElements]
  exact and_iff_left (by decide)

/-- A path that `safe_file` refuses. -/
def Escapes (path : Text) : Prop := '\x00' ∈ path ∨ "..".toList ∈ path.splitOn '/'

instance (path : Text) : Decidable (Escapes path) := inferInstanceAs (Decidable (_ ∨ _))

theorem any_null_iff (path : Text) :
    (trimStartMatches (· == '/') path).any (· == '\x00') = true ↔ '\x00' ∈ path := by
  rw [any_beq', contains_iff_mem]
  refine ⟨fun member => (dropWhile_suffix _).subset member, fun member => ?_⟩
  rw [← takeWhile_append_dropWhile (p := (· == '/')) (l := path)] at member
  refine (mem_append.mp member).resolve_left fun slash => ?_
  exact absurd (mem_takeWhile_imp slash) (by decide)

theorem safeFile_eq (root urlPath : Text) : safeFile root urlPath =
      let path := before '?' urlPath
      if Escapes path then none
      else some ⟨root, if pathElements path = [] then ["index.html"] else pathElements path⟩ := by
  have parts : ∀ rel, normalParts rel = if "..".toList ∈ pathElements rel then none
      else some (pathElements rel) := by
    intro rel
    simp [normalParts, pathElements]
  unfold safeFile
  dsimp only
  by_cases nul : '\x00' ∈ before '?' urlPath
  · rw [if_pos ((any_null_iff _).mpr nul), if_pos (.inl nul)]
  rw [if_neg (mt (any_null_iff _).mp nul), parts, pathElements_trimStart]
  by_cases up : "..".toList ∈ (before '?' urlPath).splitOn '/'
  · rw [if_pos (parent_mem_pathElements.mpr up), if_pos (.inr up)]
    rfl
  · have inside : ¬ Escapes (before '?' urlPath) := not_or.mpr ⟨nul, up⟩
    rw [if_neg (mt parent_mem_pathElements.mp up), if_neg inside]
    simp only [Option.map_some, List.isEmpty_iff]

/-- `Path::extension`: what follows the last dot of a name that does not start
with it. -/
def fileExtension (path : FilePath) : Option Text := do
  let name ← path.parts.getLast?
  let (stem, tail) ← rsplitOnce '.' name
  if stem.isEmpty then none else some tail

def mimeTypes : List (Text × Text) :=
  [("html", "text/html; charset=utf-8"), ("htm", "text/html; charset=utf-8"),
    ("css", "text/css; charset=utf-8"), ("js", "text/javascript; charset=utf-8"),
    ("json", "application/json"), ("svg", "image/svg+xml"), ("png", "image/png"),
    ("jpg", "image/jpeg"), ("jpeg", "image/jpeg"), ("txt", "text/plain; charset=utf-8"),
    ("md", "text/plain; charset=utf-8"), ("wasm", "application/wasm")]

def guessMime (path : FilePath) : Text :=
  (mimeTypes.lookup (toAsciiLowercase ((fileExtension path).getD []))).getD
    "application/octet-stream"

structure CachedResponse where
  status : Nat
  headers : List (Text × Text)
  body : Bytes
deriving DecidableEq

structure CacheEntry where
  response : CachedResponse
  expires : Instant
  bytes : Nat
deriving DecidableEq

structure Cache where
  entries : HashMap Text CacheEntry := ∅
  bytes : Nat := 0

def cacheGet (now : Instant) (key : Text) (cache : Cache) : Option CachedResponse × Cache :=
  match cache.entries.get? key with
  | none => (none, cache)
  | some entry =>
    if entry.expires ≤ now then
      (none, { entries := cache.entries.remove key, bytes := cache.bytes - entry.bytes })
    else (some entry.response, cache)

/-- What `keys().next()` yields: some key of the map, if it has one. -/
structure Eviction where
  victim : HashMap Text CacheEntry → Option Text
  victim_mem : ∀ {map key}, victim map = some key → key ∈ map.keys
  victim_none : ∀ {map}, victim map = none → map.entries = []

namespace Eviction

def first : Eviction where
  victim map := map.keys.head?
  victim_mem := List.mem_of_head?
  victim_none none := by simpa [HashMap.keys] using none

end Eviction

namespace Cache

def drop (cache : Cache) (key : Text) : Cache :=
  match cache.entries.get? key with
  | some old =>
    { entries := cache.entries.remove key, bytes := cache.bytes - old.bytes }
  | none => cache

/-- Evict entries until `size` more bytes fit. Every turn of the loop removes one,
so that it turns at most `turns` times. -/
def makeRoom (eviction : Eviction) (size maxBytes : Nat) : (turns : Nat) → Cache → Cache
  | 0, cache => cache
  | turns + 1, cache =>
    if cache.bytes + size > maxBytes then
      match eviction.victim cache.entries with
      | some key => makeRoom eviction size maxBytes turns (cache.drop key)
      | none => cache
    else cache

end Cache

def cacheSize (key : Text) (response : CachedResponse) : Nat :=
  response.body.length +
    (response.headers.map fun header => header.1.len + header.2.len).sum + key.len

def maxEntryBytes : Nat := 1048576

def fitsCache (key : Text) (response : CachedResponse) (ttl maxBytes : Nat) : Bool :=
  maxBytes ≠ 0 && ttl ≠ 0 && cacheSize key response ≤ maxBytes &&
    cacheSize key response ≤ maxEntryBytes

def cachePut (eviction : Eviction) (now : Instant) (key : Text) (response : CachedResponse)
    (ttl maxBytes : Nat) (cache : Cache) : Cache :=
  if fitsCache key response ttl maxBytes then
    let size := cacheSize key response
    let cache := cache.drop key
    let cache := cache.makeRoom eviction size maxBytes cache.entries.entries.length
    { entries := cache.entries.insert key { response, expires := now + ttl, bytes := size }
      bytes := cache.bytes + size }
  else cache

theorem body_le_of_fitsCache (fits : fitsCache key response ttl maxBytes = true) :
    response.body.length ≤ maxEntryBytes := by
  simp only [fitsCache, Bool.and_eq_true, decide_eq_true_eq] at fits
  have size := fits.2
  unfold cacheSize at size
  omega

theorem get?_cachePut (fits : fitsCache key response ttl maxBytes = true) (eviction : Eviction)
    (now : Instant) (cache : Cache) :
    (cachePut eviction now key response ttl maxBytes cache).entries.get? key =
      some { response, expires := now + ttl, bytes := cacheSize key response } := by
  simp only [cachePut, fits, if_true]
  rw [HashMap.get?_insert, if_pos rfl]

/-! `safe_file` pushes the components of a request path onto the root one by one. -/

/-- `std::path::Component`, without the prefixes of Windows. -/
inductive Component where
  | rootDir
  | curDir
  | parentDir
  | normal (name : Text)
deriving DecidableEq

def Component.ofElement (element : Text) : Component :=
  if element = "..".toList then .parentDir else .normal element

/-- What a path starts with: the root, or a `.` that is kept. -/
def leadingComponent (path : Text) : List Component :=
  if startsWith path "/" then [.rootDir]
  else if before '/' path = ".".toList then [.curDir]
  else []

/-- `Path::components`. -/
def components (path : Text) : List Component :=
  leadingComponent path ++ (pathElements path).map Component.ofElement

/-- `PathBuf::push`. -/
def pushPath (path part : Text) : Text :=
  if startsWith part "/" then part
  else if path.isEmpty || endsWith path "/" then path ++ part
  else path ++ '/' :: part

/-- The loop of `safe_file`. -/
def walk (path : Text) : List Component → Option Text
  | [] => some path
  | .normal name :: rest => walk (pushPath path name) rest
  | .curDir :: rest => walk path rest
  | _ :: _ => none

def safeFilePath (root urlPath : Text) : Option Text :=
  let rel := trimStartMatches (· == '/') (before '?' urlPath)
  if rel.any (· == '\x00') then none
  else
    (walk root (components rel)).map fun path =>
      -- Paths are compared by their components.
      if components path = components root then pushPath path "index.html" else path

/-- The text of a file below a root. -/
def FilePath.text (file : FilePath) : Text :=
  file.parts.foldl pushPath file.root

/-- A name that stands for itself as a component. -/
structure IsName (part : Text) : Prop where
  given : part ≠ []
  whole : '/' ∉ part
  other : part ≠ ".".toList ∧ part ≠ "..".toList

theorem IsName.of_mem (inside : ¬ "..".toList ∈ path.splitOn '/')
    (member : part ∈ pathElements path) : IsName part := by
  obtain ⟨listed, given, single⟩ := mem_pathElements.mp member
  refine ⟨given, fun slash => ?_, single, ?_⟩
  · have plain := not_of_mem_splitOnP listed '/' slash
    exact absurd plain (by decide)
  · rintro rfl
    exact inside listed

theorem IsName.pathElements (name : IsName part) : pathElements part = [part] := by
  have single : part ≠ ['.'] := name.other.1
  rw [Edge.pathElements, splitOn_eq_singleton name.whole]
  simp [name.given, single]

open Component

theorem IsName.ofElement (name : IsName part) : ofElement part = .normal part :=
  if_neg name.other.2

theorem leadingComponent_append_slash (base left right : Text) :
    leadingComponent (base ++ '/' :: left) = leadingComponent (base ++ '/' :: right) := by
  unfold leadingComponent
  rw [before_append_separator, before_append_separator]
  cases base <;> simp [startsWith]

theorem leadingComponent_append (given : base ≠ []) (rest : Text) :
    leadingComponent (base ++ '/' :: rest) = leadingComponent base := by
  unfold leadingComponent
  rw [before_append_separator]
  cases base with
  | nil => exact absurd rfl given
  | cons first base => simp [startsWith]

theorem components_append_slash (name : IsName part) (base : Text) :
    components (base ++ '/' :: part) = leadingComponent (base ++ '/' :: part) ++
        (pathElements base).map ofElement ++ [.normal part] := by
  rw [components, pathElements_append_slash, name.pathElements, map_append,
    append_assoc]
  simp [name.ofElement]

/-- Pushing a name adds a component, wherever the root has its slashes. -/
theorem components_pushPath (name : IsName part) (path : Text) :
    components (pushPath path part) = components path ++ [.normal part] := by
  have relative : startsWith part "/" = false := by
    by_contra starts
    obtain ⟨rest, whole⟩ := startsWith_iff.mp (Bool.not_eq_false _ ▸ starts)
    exact name.whole (whole ▸ by simp)
  rw [pushPath, if_neg (ne_true_of_eq_false relative)]
  by_cases empty : path = []
  · subst empty
    have leading : leadingComponent part = [] := by
      rw [leadingComponent, if_neg (ne_true_of_eq_false relative),
        before_eq_self name.whole, if_neg name.other.1]
    simp only [isEmpty_nil, Bool.true_or, if_true, nil_append]
    rw [components, leading, name.pathElements, map_singleton, name.ofElement]
    rfl
  by_cases ends : endsWith path "/" = true
  · obtain ⟨base, whole⟩ := endsWith_iff.mp ends
    subst whole
    rw [if_pos (by rw [ends, Bool.or_true])]
    have joined : base ++ "/".toList ++ part = base ++ '/' :: part := by simp
    rw [joined, components_append_slash name, leadingComponent_append_slash base part []]
    have elements : pathElements (base ++ "/".toList) = pathElements base := by
      rw [show base ++ "/".toList = base ++ '/' :: [] from rfl, pathElements_append_slash]
      exact append_nil _
    rw [components, elements]
    rfl
  have unended : (path.isEmpty || endsWith path "/") ≠ true := by
    rw [ne_eq, Bool.or_eq_true, not_or]
    exact ⟨by simpa using empty, ends⟩
  rw [if_neg unended, components_append_slash name, leadingComponent_append empty]
  rfl

theorem walk_elements {parts : List Text} (names : ∀ part ∈ parts, IsName part) (path : Text) :
    walk path (parts.map ofElement) = some (parts.foldl pushPath path) := by
  induction parts generalizing path with
  | nil => rfl
  | cons part rest induction =>
    rw [map_cons, (names part mem_cons_self).ofElement]
    exact induction (fun other member => names other (mem_cons_of_mem part member)) _

theorem walk_parent {parts : List Text} (parent : "..".toList ∈ parts) (path : Text) :
    walk path (parts.map ofElement) = none := by
  induction parts generalizing path with
  | nil => cases parent
  | cons part rest induction =>
    rw [map_cons, ofElement]
    split
    next => rfl
    next other =>
      exact induction ((mem_cons.mp parent).resolve_left (Ne.symm other)) _

theorem components_foldl {parts : List Text} (names : ∀ part ∈ parts, IsName part) (path : Text) :
    components (parts.foldl pushPath path) = components path ++ parts.map .normal := by
  induction parts generalizing path with
  | nil => simp
  | cons part rest induction =>
    rw [foldl_cons,
      induction (fun other member => names other (mem_cons_of_mem part member)),
      components_pushPath (names part mem_cons_self)]
    simp

/-- A request path without its slashes starts with nothing, or with a `.` that the walk
ignores. -/
theorem walk_components (root path : Text) :
    walk root (components (trimStartMatches (· == '/') path)) =
      walk root ((pathElements path).map ofElement) := by
  have relative : startsWith (trimStartMatches (· == '/') path) "/" = false := by
    by_contra starts
    obtain ⟨rest, whole⟩ := startsWith_iff.mp (Bool.not_eq_false _ ▸ starts)
    have head : (path.dropWhile (· == '/')).head? = some '/' := by
      change (trimStartMatches (· == '/') path).head? = _
      rw [← whole]
      rfl
    have kept := head?_dropWhile_not (· == '/') path
    rw [head] at kept
    exact absurd kept (by decide)
  rw [components, leadingComponent, relative, pathElements_trimStart]
  simp only [Bool.false_eq_true, if_false]
  split <;> rfl

/-- The names below the root that a request path stands for. -/
def fileNames (path : Text) : List Text :=
  if pathElements path = [] then ["index.html".toList] else pathElements path

theorem isName_of_mem_fileNames (inside : ¬ Escapes path) (member : name ∈ fileNames path) :
    IsName name := by
  unfold fileNames at member
  split at member
  next =>
    rw [mem_singleton] at member
    subst member
    exact ⟨by decide, by decide, by decide⟩
  next => exact .of_mem (not_or.mp inside).2 member

/-- The walk ends at the file that `safeFile` gives. -/
theorem safeFilePath_eq (root urlPath : Text) :
    safeFilePath root urlPath = (safeFile root urlPath).map FilePath.text := by
  rw [safeFile_eq]
  unfold safeFilePath
  dsimp only
  by_cases nul : '\x00' ∈ before '?' urlPath
  · rw [if_pos ((any_null_iff _).mpr nul), if_pos (.inl nul)]
    rfl
  rw [if_neg (mt (any_null_iff _).mp nul), walk_components]
  by_cases up : "..".toList ∈ (before '?' urlPath).splitOn '/'
  · rw [if_pos (.inr up), walk_parent (mem_pathElements.mpr ⟨up, by decide⟩)]
    rfl
  have inside : ¬ Escapes (before '?' urlPath) := not_or.mpr ⟨nul, up⟩
  have names : ∀ part ∈ pathElements (before '?' urlPath), IsName part :=
    fun part => .of_mem up
  rw [if_neg inside, walk_elements names, Option.map_some, components_foldl names]
  by_cases none : pathElements (before '?' urlPath) = []
  · simp [none, FilePath.text]
  · simp [none, FilePath.text]

/-- `safe_file` gives a path exactly when the request path has no NUL and no `..`
element: the root and the elements of the request path, or `index.html`. The components
of the root stay in front. -/
theorem safe_file_exact (root urlPath : Text) :
    ((safeFilePath root urlPath).isSome = true ↔ ¬ Escapes (before '?' urlPath)) ∧
      ∀ path, safeFilePath root urlPath = some path →
        path = (fileNames (before '?' urlPath)).foldl pushPath root ∧ components path =
            components root ++ (fileNames (before '?' urlPath)).map .normal := by
  rw [safeFilePath_eq, safeFile_eq]
  dsimp only
  split
  next escapes =>
    refine ⟨⟨fun given => ?_, fun inside => absurd escapes inside⟩, fun path found => ?_⟩
    · cases given
    · cases found
  next inside =>
    refine ⟨⟨fun _ => inside, fun _ => rfl⟩, fun path found => ?_⟩
    obtain rfl := Option.some.inj found
    exact ⟨rfl, components_foldl (fun name => isName_of_mem_fileNames inside) root⟩

end PertiskProxy.Edge

/-! The cache behind its lock. -/

namespace PertiskProxy.Edge

open HashMap Cache

def heldBytes (map : HashMap Text CacheEntry) : Nat :=
  (map.entries.map fun entry => cacheSize entry.1 entry.2.response).sum

theorem heldBytes_of_perm (more : map.entries.Perm ((key, entry) :: rest.entries)) :
    heldBytes map = cacheSize key entry.response + heldBytes rest := by
  have total := (more.map fun entry => cacheSize entry.1 entry.2.response).sum_nat
  simpa [heldBytes] using total

namespace Cache

def held (cache : Cache) : Nat :=
  heldBytes cache.entries

/-- The counter is the sum of the entries' sizes, and each entry knows its own. -/
structure Balanced (cache : Cache) : Prop where
  bytes : cache.bytes = cache.held
  sizes : ∀ {key entry}, cache.entries.get? key = some entry →
    entry.bytes = cacheSize key entry.response

theorem balanced_empty : Balanced {} where
  bytes := rfl
  sizes := nofun

def Within (inner outer : Cache) : Prop :=
  ∀ key entry, inner.entries.get? key = some entry → outer.entries.get? key = some entry

theorem Within.refl (cache : Cache) : Within cache cache := fun _ _ found => found

theorem Within.trans (inside : Within first second) (within : Within second third) :
    Within first third := fun key entry found =>
  within key entry (inside key entry found)

theorem get?_drop (cache : Cache) (key other : Text) : (cache.drop key).entries.get? other =
      if other = key then none else cache.entries.get? other := by
  unfold drop
  cases found : cache.entries.get? key with
  | some old => exact get?_remove _ _ _
  | none =>
    by_cases equal : other = key
    · simp [equal, found]
    · simp [equal]

theorem drop_within (cache : Cache) (key : Text) : Within (cache.drop key) cache := by
  intro other entry found
  rw [get?_drop] at found
  exact (Option.ite_none_left_eq_some.mp found).2

theorem Balanced.drop (balanced : Balanced cache) (key : Text) : Balanced (cache.drop key) := by
  have sizes : ∀ {other entry}, (cache.drop key).entries.get? other = some entry →
      entry.bytes = cacheSize other entry.response := fun found =>
    balanced.sizes (drop_within cache key _ _ found)
  refine ⟨?_, sizes⟩
  unfold Cache.drop at sizes ⊢
  cases found : cache.entries.get? key with
  | none => exact balanced.bytes
  | some old =>
    have total := heldBytes_of_perm (perm_cons_remove found)
    have bytes := balanced.bytes
    have size := balanced.sizes found
    simp only [held] at total bytes ⊢
    omega

theorem length_drop {cache : Cache} {key : Text} (member : key ∈ cache.entries.keys) :
    (cache.drop key).entries.entries.length + 1 = cache.entries.entries.length := by
  rcases Option.isSome_iff_exists.mp (mem_keys_iff.mp member) with ⟨old, found⟩
  have length := (perm_cons_remove found).length_eq
  simp only [drop, found]
  exact length.symm

/-! ## Making room -/

section

variable (eviction : Eviction) (size maxBytes : Nat)

theorem makeRoom_within (turns : Nat) (cache : Cache) :
    Within (cache.makeRoom eviction size maxBytes turns) cache := by
  induction turns generalizing cache with
  | zero => exact .refl cache
  | succ turns induction =>
    simp only [makeRoom]
    split
    · split
      · exact (induction _).trans (drop_within cache _)
      · exact .refl cache
    · exact .refl cache

theorem Balanced.makeRoom (balanced : Balanced cache) (turns : Nat) :
    Balanced (cache.makeRoom eviction size maxBytes turns) := by
  induction turns generalizing cache with
  | zero => exact balanced
  | succ turns induction =>
    simp only [Cache.makeRoom]
    split
    · split
      · exact induction (balanced.drop _)
      · exact balanced
    · exact balanced

variable {eviction size maxBytes}

/-- The loop ends by itself: with a turn for every entry, it stops because the
new entry fits or because nothing is left. -/
theorem makeRoom_exits {turns : Nat} {cache : Cache}
    (enough : cache.entries.entries.length ≤ turns) :
    let room := cache.makeRoom eviction size maxBytes turns
    room.bytes + size ≤ maxBytes ∨ room.entries.entries = [] := by
  induction turns generalizing cache with
  | zero => exact .inr (List.length_eq_zero_iff.mp (Nat.le_zero.mp enough))
  | succ turns induction =>
    simp only [makeRoom]
    split
    · split
      · next key victim =>
        apply induction
        have fewer := length_drop (eviction.victim_mem victim)
        omega
      · next none => exact .inr (eviction.victim_none none)
    · next fits => exact .inl (Nat.le_of_not_lt fits)

theorem makeRoom_of_le {turns : Nat} {cache : Cache}
    (enough : cache.entries.entries.length ≤ turns) :
    cache.makeRoom eviction size maxBytes turns =
      cache.makeRoom eviction size maxBytes cache.entries.entries.length := by
  induction turns generalizing cache with
  | zero => rw [Nat.le_zero.mp enough]
  | succ turns induction =>
    cases length : cache.entries.entries.length with
    | zero =>
      have nothing : eviction.victim cache.entries = none := by
        apply Option.eq_none_iff_forall_ne_some.mpr
        intro key victim
        have member := eviction.victim_mem victim
        rw [keys, List.length_eq_zero_iff.mp length] at member
        cases member
      simp [makeRoom, nothing, ite_self]
    | succ fewer =>
      simp only [makeRoom]
      split
      · split
        · next key victim =>
          have shorter := length_drop (eviction.victim_mem victim)
          have left : (cache.drop key).entries.entries.length = fewer := by omega
          rw [induction (by omega), left]
        · rfl
      · rfl

end

end Cache

/-! ## Behind the lock -/

/-- The last reading of the monotonic clock that fits its signed 64-bit seconds. -/
def latestInstant : Instant :=
  Instant.ofSecs 9223372036854775808 - 1

/-- The cache, and whether a panic has poisoned its lock. -/
structure CacheStore where
  cache : Cache := {}
  poisoned : Bool := false

/-- The arguments of `cache_put`, with the time and the keys the map yields. -/
structure CachePut where
  eviction : Eviction
  now : Instant
  key : Text
  response : CachedResponse
  ttl : Nat
  maxBytes : Nat

namespace CachePut

variable (put : CachePut)

def fits : Bool :=
  fitsCache put.key put.response put.ttl put.maxBytes

def size : Nat :=
  cacheSize put.key put.response

def expires : Instant :=
  put.now + put.ttl

def panics : Bool :=
  put.fits && latestInstant < put.expires

def room (cache : Cache) : Cache :=
  let cache := cache.drop put.key
  cache.makeRoom put.eviction put.size put.maxBytes cache.entries.entries.length

end CachePut

namespace CacheStore

/-- `cache_put`. A poisoned lock is not used; a panic comes after the counter was
raised and before the entry is inserted. -/
def put (store : CacheStore) (put : CachePut) : CacheStore :=
  if store.poisoned then store
  else if put.panics then
    let room := put.room store.cache
    { cache := { room with bytes := room.bytes + put.size }, poisoned := true }
  else
    { store with
      cache := cachePut put.eviction put.now put.key put.response put.ttl put.maxBytes
        store.cache }

def get (store : CacheStore) (now : Instant) (key : Text) : Option CachedResponse × CacheStore :=
  if store.poisoned then (none, store)
  else
    let (hit, cache) := cacheGet now key store.cache
    (hit, { store with cache })

def stores (store : CacheStore) (put : CachePut) : Bool :=
  !store.poisoned && put.fits && !put.panics

end CacheStore

inductive CacheCall where
  | put (put : CachePut)
  | get (now : Instant) (key : Text)

def CacheStore.step (store : CacheStore) : CacheCall → CacheStore
  | .put put => store.put put
  | .get now key => (store.get now key).2

def storeAfter : List CacheCall → CacheStore
  | [] => {}
  | call :: earlier => (storeAfter earlier).step call

def lastStored (key : Text) : List CacheCall → Option (CachedResponse × Instant)
  | [] => none
  | .get _ _ :: earlier => lastStored key earlier
  | .put put :: earlier =>
    if put.key = key ∧ (storeAfter earlier).stores put = true then
      some (put.response, put.expires)
    else lastStored key earlier

/-! ## What a call does to the entries -/

theorem CachePut.get?_room (put : CachePut) (cache : Cache) :
    (put.room cache).entries.get? put.key = none := by
  apply Option.eq_none_iff_forall_ne_some.mpr
  intro entry found
  have left := makeRoom_within _ _ _ _ _ _ _ found
  rw [get?_drop, if_pos rfl] at left
  cases left

theorem CachePut.room_within (put : CachePut) (cache : Cache) :
    Within (put.room cache) cache :=
  (makeRoom_within _ _ _ _ _).trans (drop_within _ _)

theorem Cache.Balanced.room (balanced : cache.Balanced) (put : CachePut) :
    (put.room cache).Balanced :=
  (balanced.drop _).makeRoom _ _ _ _

theorem CachePut.room_le {put : CachePut} {cache : Cache} (balanced : cache.Balanced)
    (fits : put.fits = true) : (put.room cache).bytes + put.size ≤ put.maxBytes := by
  have small : put.size ≤ put.maxBytes := by
    simp only [CachePut.fits, fitsCache, Bool.and_eq_true, decide_eq_true_eq] at fits
    exact fits.1.2
  have exits := @makeRoom_exits put.eviction put.size put.maxBytes _ (cache.drop put.key)
    (Nat.le_refl _)
  rcases exits with done | empty
  · exact done
  · have nothing : (put.room cache).bytes = 0 := by
      rw [(balanced.room put).bytes, held, heldBytes, room, empty]
      rfl
    omega

theorem cachePut_of_fits {put : CachePut} (fits : put.fits = true) (cache : Cache) :
    cachePut put.eviction put.now put.key put.response put.ttl put.maxBytes cache =
      { entries := (put.room cache).entries.insert put.key
          { response := put.response, expires := put.expires, bytes := put.size }
        bytes := (put.room cache).bytes + put.size } :=
  if_pos fits

theorem cachePut_of_not_fits {put : CachePut} (fits : ¬put.fits = true) (cache : Cache) :
    cachePut put.eviction put.now put.key put.response put.ttl put.maxBytes cache = cache :=
  if_neg fits

theorem Cache.Balanced.cachePut (balanced : cache.Balanced) (put : CachePut) :
    (cachePut put.eviction put.now put.key put.response put.ttl put.maxBytes cache).Balanced := by
  by_cases fits : put.fits = true
  · rw [cachePut_of_fits fits]
    constructor
    · rw [held, heldBytes_of_perm (insert_perm_cons (put.get?_room cache) _),
        (balanced.room put).bytes, Nat.add_comm]
      rfl
    intro key entry found
    rw [get?_insert] at found
    split at found
    · next equal =>
      cases found
      rw [equal]
      rfl
    · exact (balanced.room put).sizes found
  · rw [cachePut_of_not_fits fits]
    exact balanced

theorem cacheGet_snd (now : Instant) (key : Text) (cache : Cache) :
    (cacheGet now key cache).2 = cache ∨ (cacheGet now key cache).2 = cache.drop key := by
  unfold cacheGet
  cases found : cache.entries.get? key with
  | none => exact .inl rfl
  | some entry =>
    by_cases expired : entry.expires ≤ now
    · right
      simp [expired, drop, found]
    · left
      simp [expired]

theorem cacheGet_fst (hit : (cacheGet now key cache).1 = some response) :
    ∃ entry, cache.entries.get? key = some entry ∧ entry.response = response ∧
      now < entry.expires := by
  unfold cacheGet at hit
  cases found : cache.entries.get? key with
  | none => simp [found] at hit
  | some entry =>
    by_cases expired : entry.expires ≤ now
    · simp [found, expired] at hit
    · simp [found, expired] at hit
      exact ⟨entry, rfl, hit, Nat.lt_of_not_le expired⟩

/-! ## Every sequence of calls -/

/-- The counter is exact, a put that stores keeps to its limit and its loop ends,
and a hit is the response stored last, before it expires. -/
structure CacheCall.Sound (earlier : List CacheCall) (call : CacheCall) : Prop where
  counted : (storeAfter (call :: earlier)).cache.bytes = (storeAfter (call :: earlier)).cache.held
  bounded : ∀ put, call = .put put → (storeAfter earlier).stores put = true →
    (storeAfter (call :: earlier)).cache.bytes ≤ put.maxBytes
  ends : ∀ put, call = .put put → ∀ turns,
    let cache := (storeAfter earlier).cache.drop put.key
    cache.entries.entries.length ≤ turns →
      cache.makeRoom put.eviction put.size put.maxBytes turns =
        put.room (storeAfter earlier).cache
  answered : ∀ now key response, call = .get now key →
    ((storeAfter earlier).get now key).1 = some response →
      ∃ expires, lastStored key earlier = some (response, expires) ∧ now < expires

/-- A put does not panic, unless the lock is poisoned already or the entry is
empty. -/
def CacheCall.Expirable (earlier : List CacheCall) (call : CacheCall) : Prop :=
  ∀ put, call = .put put → put.panics = true →
    (storeAfter earlier).poisoned = true ∨ put.size = 0

structure Tracked (history : List CacheCall) : Prop where
  balanced : (storeAfter history).cache.Balanced
  latest : ∀ key entry, (storeAfter history).cache.entries.get? key = some entry →
    lastStored key history = some (entry.response, entry.expires)

theorem Tracked.start : Tracked [] where
  balanced := balanced_empty
  latest := nofun

theorem CacheStore.put_of_panics {store : CacheStore} {put : CachePut}
    (usable : store.poisoned = false) (panics : put.panics = true) : store.put put =
      { cache := { entries := (put.room store.cache).entries
                   bytes := (put.room store.cache).bytes + put.size }
        poisoned := true } := by
  simp [CacheStore.put, usable, panics]

theorem CacheStore.put_cases (store : CacheStore) (put : CachePut) :
    (store.stores put = false ∧ store.put put = store) ∨
    (store.stores put = true ∧ put.fits = true ∧
      store.put put = { store with
        cache := { entries := (put.room store.cache).entries.insert put.key
                     { response := put.response, expires := put.expires, bytes := put.size }
                   bytes := (put.room store.cache).bytes + put.size } }) ∨
    (store.stores put = false ∧ store.poisoned = false ∧ put.panics = true ∧
      store.put put =
        { cache := { entries := (put.room store.cache).entries
                     bytes := (put.room store.cache).bytes + put.size }
          poisoned := true }) := by
  rcases store with ⟨cache, _ | _⟩
  · cases panics : put.panics with
    | true => exact .inr (.inr ⟨by simp [stores, panics], rfl, rfl, put_of_panics rfl panics⟩)
    | false =>
      cases fits : put.fits with
      | false =>
        left
        have unchanged := cachePut_of_not_fits (Bool.eq_false_iff.mp fits) cache
        simp [stores, CacheStore.put, panics, fits, unchanged]
      | true =>
        right
        left
        have stored := cachePut_of_fits fits cache
        simp [stores, CacheStore.put, panics, fits, stored]
  · exact .inl (by simp [stores, CacheStore.put])

theorem lastStored_put_of_not_stores (fails : (storeAfter earlier).stores put = false)
    (key : Text) : lastStored key (.put put :: earlier) = lastStored key earlier := by
  rw [lastStored, if_neg]
  rintro ⟨-, stores⟩
  rw [fails] at stores
  cases stores

open CacheStore

theorem Tracked.put {history : List CacheCall} (tracked : Tracked history) {put : CachePut}
    (expirable : CacheCall.Expirable history (.put put)) : Tracked (.put put :: history) := by
  rcases (storeAfter history).put_cases put with
    ⟨fails, same⟩ | ⟨stores, fits, stored⟩ | ⟨fails, usable, panics, panicked⟩
  · refine ⟨?_, fun key entry found => ?_⟩
    · rw [storeAfter, step, same]
      exact tracked.balanced
    · rw [storeAfter, step, same] at found
      rw [lastStored_put_of_not_stores fails]
      exact tracked.latest key entry found
  · refine ⟨?_, fun key entry found => ?_⟩
    · rw [storeAfter, step, stored, ← cachePut_of_fits fits]
      exact tracked.balanced.cachePut put
    rw [storeAfter, step, stored] at found
    rw [lastStored]
    by_cases equal : key = put.key
    · rw [get?_insert, if_pos equal] at found
      cases found
      rw [if_pos ⟨equal.symm, stores⟩]
    · rw [get?_insert, if_neg equal] at found
      rw [if_neg fun both => equal both.1.symm]
      exact tracked.latest key entry (put.room_within _ key entry found)
  -- Only an empty entry may panic, and that leaves the counter where it was.
  have empty : put.size = 0 := by
    rcases expirable put rfl panics with poisoned | empty
    · rw [usable] at poisoned
      cases poisoned
    · exact empty
  have balanced := tracked.balanced.room put
  refine ⟨?_, fun key entry found => ?_⟩
  · rw [storeAfter, step, panicked, empty]
    exact ⟨balanced.bytes, balanced.sizes⟩
  · rw [storeAfter, step, panicked] at found
    rw [lastStored_put_of_not_stores fails]
    exact tracked.latest key entry (put.room_within _ key entry found)

theorem CacheStore.get_cache (store : CacheStore) (now : Instant) (key : Text) :
    (store.get now key).2.cache = store.cache ∨
      (store.get now key).2.cache = store.cache.drop key := by
  unfold get
  split
  · exact .inl rfl
  · exact cacheGet_snd now key store.cache

theorem Tracked.get (tracked : Tracked history) (now : Instant) (key : Text) :
    Tracked (.get now key :: history) := by
  rcases (storeAfter history).get_cache now key with same | dropped
  · refine ⟨?_, fun other entry found => ?_⟩
    · rw [storeAfter, step, same]
      exact tracked.balanced
    · rw [storeAfter, step, same] at found
      exact tracked.latest other entry found
  · refine ⟨?_, fun other entry found => ?_⟩
    · rw [storeAfter, step, dropped]
      exact tracked.balanced.drop key
    · rw [storeAfter, step, dropped] at found
      exact tracked.latest other entry (drop_within _ key other entry found)

theorem Tracked.step (tracked : Tracked history) (expirable : call.Expirable history) :
    Tracked (call :: history) := by
  cases call with
  | put put => exact tracked.put expirable
  | get now key => exact tracked.get now key

theorem Tracked.sound_iff {history : List CacheCall} (tracked : Tracked history)
    (call : CacheCall) : call.Sound history ↔ call.Expirable history := by
  constructor
  · rintro sound put rfl panics
    cases usable : (storeAfter history).poisoned with
    | true => exact .inl rfl
    | false =>
      right
      have counted := sound.counted
      rw [storeAfter, CacheStore.step, CacheStore.put_of_panics usable panics] at counted
      have bytes := (tracked.balanced.room put).bytes
      simp only [held] at counted bytes
      omega
  intro expirable
  refine ⟨(tracked.step expirable).balanced.bytes, ?_, ?_, ?_⟩
  · rintro put rfl stores
    rcases (storeAfter history).put_cases put with
      ⟨fails, -⟩ | ⟨-, fits, stored⟩ | ⟨fails, -⟩
    · rw [stores] at fails
      cases fails
    · rw [storeAfter, CacheStore.step, stored]
      exact CachePut.room_le tracked.balanced fits
    · rw [stores] at fails
      cases fails
  · rintro put rfl turns cache enough
    exact makeRoom_of_le enough
  rintro now key response rfl hit
  unfold CacheStore.get at hit
  split at hit
  · cases hit
  · rcases cacheGet_fst hit with ⟨entry, found, rfl, before⟩
    exact ⟨entry.expires, tracked.latest key entry found, before⟩

/-- Along every sequence of calls, in which a put may evict any entries: the
counter is the sum of the entries' sizes, a put that stores keeps to its limit
and its loop ends, and a hit is the response stored last under its key, before
it expires. This fails exactly when the expiry of an entry that would be stored
is beyond the clock: then the put panics. -/
theorem cache_sound_iff (calls : List CacheCall) :
    Run.Every (fun earlier call => call :: earlier) CacheCall.Sound [] calls ↔
      Run.Every (fun earlier call => call :: earlier) CacheCall.Expirable [] calls :=
  Run.Every.iff_of_invariant Tracked (fun _ _ tracked expirable => tracked.step expirable)
    (fun _ call tracked => tracked.sound_iff call) Tracked.start calls

/-- A response kept for `u64::MAX` seconds: the counter is raised, the entry is not
stored, and the cache answers nothing any more. -/
theorem endless_ttl_breaks_counter :
    let put : CachePut :=
      { eviction := .first, now := 0, key := "GET a.example/"
        response := { status := 200, headers := [], body := [104, 105] }
        ttl := Instant.ofSecs u64Max, maxBytes := 1048576 }
    (storeAfter [.put put]).cache.bytes = 16 ∧ (storeAfter [.put put]).cache.held = 0 ∧
      (storeAfter [.put put]).poisoned = true ∧
      ¬Run.Every (fun earlier call => call :: earlier) CacheCall.Sound [] [.put put] := by
  refine ⟨by decide, by decide, by decide, ?_⟩
  rintro ⟨sound, -⟩
  have counted := sound.counted
  revert counted
  decide

end PertiskProxy.Edge
