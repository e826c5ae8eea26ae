import PertiskProxy.ProxyConfig

/-! Host and path matching, edge policies by host and path, and upstream addresses
(`router.rs`). -/

namespace PertiskProxy.Router

open Edge GeoIp ProxyConfig Security Text HashMap Option

variable {route : Route} {table : RouteTable} {host path : Text}

structure Backend where
  address : Text
  port : Nat
  useTls : Bool
deriving DecidableEq

inductive Middleware where
  | stripPrefix (lead : Text)
  | requestHeaders (headers : List (Text × Text))
  | responseHeaders (headers : List (Text × Text))
deriving DecidableEq

structure Route where
  path : Text
  pathType : PathMatchType
  backend : Backend
  middlewares : List Middleware := []
  forwardClientIp : Bool := true
  geoip : GeoIpPolicy := {}
  security : SecurityPolicy := {}
deriving DecidableEq

/-! ## Paths -/

def pathMatches (pathType : PathMatchType) (rulePath requestPath : Text) : Bool :=
  match pathType with
  | .exact => rulePath == requestPath
  | .lead =>
    requestPath == rulePath ||
      (endsWith rulePath "/" && startsWith requestPath rulePath) ||
      (!endsWith rulePath "/" &&
        (startsWith requestPath (rulePath ++ ['/']) || requestPath == rulePath))
  | .implementationSpecific => startsWith requestPath rulePath

theorem pathMatches_self (pathType : PathMatchType) (path : Text) :
    pathMatches pathType path path = true := by
  cases pathType with
  | exact | lead => simp [pathMatches]
  | implementationSpecific =>
    simp only [pathMatches]
    exact startsWith_iff.mpr (List.prefix_refl path)

def findRoute (routes : List Route) (path : Text) : Option Route :=
  routes.find? fun route => pathMatches route.pathType route.path path

/-! ## Hosts -/

/-- The score of a key as a wildcard for the host: its length after the star. -/
def wildcardScore (host key : Text) : Option Nat :=
  if startsWith key "*." && wildcardCoversHost key host then
    some ((stripPrefix key "*").getD key).len
  else none

/-- The value for a host: exact, else the longest wildcard, else `*`. -/
def selectHost (map : HashMap Text ν) (host : Text) : Option ν :=
  let host := normalizeHost host
  if host.isEmpty then none
  else
    match map.get? host with
    | some value => some value
    | none =>
      match Best.scan (fun entry => wildcardScore host entry.1) map.entries with
      | some (_, entry) => some entry.2
      | none => map.get? "*"

def selectedKey (map : HashMap Text ν) (host : Text) : Option Text :=
  let host := normalizeHost host
  if host.isEmpty then none
  else if map.contains host then some host
  else
    match Best.scan (fun entry => wildcardScore host entry.1) map.entries with
    | some (_, entry) => some entry.1
    | none => some "*"

theorem selectHost_eq (map : HashMap Text ν) (host : Text) :
    selectHost map host = (selectedKey map host).bind map.get? := by
  unfold selectHost selectedKey
  dsimp only
  split
  · rfl
  cases found : map.get? (normalizeHost host) with
  | some value => simp [HashMap.contains, found]
  | none =>
    simp only [HashMap.contains, found, isSome_none, Bool.false_eq_true, if_false]
    cases scanned : Best.scan (fun entry => wildcardScore (normalizeHost host) entry.1)
        map.entries with
    | none => rfl
    | some best =>
      rcases best with ⟨score, key, value⟩
      exact (HashMap.get?_eq_some_iff.mpr (Best.scan_sound scanned).1).symm

/-! ## The chosen host -/

/-- The wildcard is `*.` and a suffix, and the host without surrounding blanks
has exactly one more label. -/
def CoversByOneLabel (wildcard host : Text) : Prop :=
  ∃ label suffix, wildcard = '*' :: '.' :: suffix ∧ trim host = label ++ '.' :: suffix ∧
    label ≠ [] ∧ '.' ∉ label

theorem CoversByOneLabel.unique (first : CoversByOneLabel left host)
    (second : CoversByOneLabel right host) : left = right := by
  rcases first with ⟨label, suffix, rfl, split, _, plain⟩
  rcases second with ⟨label', suffix', rfl, split', _, plain'⟩
  have parts := splitOnce_eq_some.mpr ⟨split, plain⟩
  rw [splitOnce_eq_some.mpr ⟨split', plain'⟩] at parts
  cases parts
  rfl

theorem wildcardCoversHost_iff
    (trimmed : trim ('*' :: '.' :: suffix) = '*' :: '.' :: suffix)
    (lower : toAsciiLowercase host = host) :
    wildcardCoversHost ('*' :: '.' :: suffix) host = true ↔
      CoversByOneLabel ('*' :: '.' :: suffix) host := by
  have lowerTrim : toAsciiLowercase (trim host) = trim host := by
    rw [← trim_toAsciiLowercase, lower]
  have stem : trimEndMatches isWhitespace suffix = suffix := by
    have split := @trimMatches_append_cons isWhitespace '.' (by decide) ['*'] suffix
    exact (List.cons.inj (List.cons.inj (split.symm.trans trimmed)).2).2
  rw [wildcardCoversHost_wildcard, lowerTrim, stem]
  constructor
  · rintro ⟨label, named, plain, whole⟩
    exact ⟨label, suffix, rfl, whole, named, plain⟩
  · rintro ⟨label, other, same, whole, named, plain⟩
    cases same
    exact ⟨label, named, plain, whole⟩

theorem wildcardScore_wildcard (host suffix : Text) :
    wildcardScore host ('*' :: '.' :: suffix) =
      if wildcardCoversHost ('*' :: '.' :: suffix) host then some (len ('.' :: suffix))
      else none := by
  have starts : startsWith ('*' :: '.' :: suffix) "*." = true :=
    startsWith_iff.mpr ⟨suffix, rfl⟩
  have stripped : stripPrefix ('*' :: '.' :: suffix) "*" = some ('.' :: suffix) :=
    stripPrefix_eq_some.mpr rfl
  simp only [wildcardScore, starts, Bool.true_and, stripped, getD_some]

theorem covers_of_scored (scored : wildcardScore host key = some value) :
    ∃ suffix, key = '*' :: '.' :: suffix ∧ wildcardCoversHost key host = true := by
  cases starts : startsWith key "*." with
  | false =>
    rw [wildcardScore, starts, Bool.false_and] at scored
    cases scored
  | true =>
    rcases startsWith_iff.mp starts with ⟨suffix, rfl⟩
    change wildcardScore host ('*' :: '.' :: suffix) = some value at scored
    rw [wildcardScore_wildcard] at scored
    split at scored
    next covered => exact ⟨suffix, rfl, covered⟩
    next => cases scored

theorem covers_of_wildcardScore (trimmed : trim key = key)
    (lower : toAsciiLowercase host = host) (scored : wildcardScore host key = some value) :
    CoversByOneLabel key host := by
  rcases covers_of_scored scored with ⟨suffix, rfl, covered⟩
  exact (wildcardCoversHost_iff trimmed lower).mp covered

theorem exists_wildcardScore (trimmed : trim key = key)
    (lower : toAsciiLowercase host = host) (covers : CoversByOneLabel key host) :
    ∃ value, wildcardScore host key = some value ∧ 0 < value := by
  have covered := covers
  rcases covers with ⟨label, suffix, rfl, _⟩
  refine ⟨len ('.' :: suffix), ?_, ?_⟩
  · rw [wildcardScore_wildcard, if_pos ((wildcardCoversHost_iff trimmed lower).mpr covered)]
  · rw [len_cons]
    exact Nat.lt_of_lt_of_le (Char.utf8Size_pos '.') (Nat.le_add_right _ _)

/-- The key whose value a host gets: its own, else that of the wildcard for it,
else `*`. -/
inductive Chosen (Known : Text → Prop) (host : Text) : Text → Prop
  | exact : Known host → Chosen Known host host
  | wildcard {key} : ¬Known host → Known key → CoversByOneLabel key host → Chosen Known host key
  | fallback : ¬Known host → (∀ key, Known key → ¬CoversByOneLabel key host) →
      Chosen Known host "*"

theorem Chosen.unique (first : Chosen Known host left) (second : Chosen Known host right) :
    left = right := by
  cases first with
  | exact known =>
    cases second with
    | exact => rfl
    | wildcard unknown | fallback unknown => exact absurd known unknown
  | wildcard unknown listed covers =>
    cases second with
    | exact known => exact absurd known unknown
    | wildcard _ _ covers' => exact covers.unique covers'
    | fallback _ none => exact absurd covers (none left listed)
  | fallback unknown none =>
    cases second with
    | exact known => exact absurd known unknown
    | wildcard _ listed covers => exact absurd covers (none right listed)
    | fallback => rfl

theorem chosen_selectedKey {map : HashMap Text ν} (named : normalizeHost host ≠ [])
    (trimmed : ∀ key ∈ map.keys, trim key = key) :
    ∃ key, selectedKey map host = some key ∧ Chosen (· ∈ map.keys) (normalizeHost host) key := by
  have lower : toAsciiLowercase (normalizeHost host) = normalizeHost host :=
    toAsciiLowercase_idem _
  have some : (normalizeHost host).isEmpty = false := by simpa using named
  simp only [selectedKey, some, Bool.false_eq_true, if_false]
  by_cases known : normalizeHost host ∈ map.keys
  · rw [if_pos (contains_iff.mpr known)]
    exact ⟨_, rfl, .exact known⟩
  rw [if_neg (fun listed => known (contains_iff.mp listed))]
  cases scanned : Best.scan (fun entry => wildcardScore (normalizeHost host) entry.1)
      map.entries with
  | some best =>
    rcases Best.scan_sound scanned with ⟨member, scored⟩
    have listed : best.2.1 ∈ map.keys := List.mem_map_of_mem member
    exact ⟨_, rfl, .wildcard known listed
      (covers_of_wildcardScore (trimmed best.2.1 listed) lower scored)⟩
  | none =>
    refine ⟨_, rfl, .fallback known ?_⟩
    intro key listed covers
    rcases List.mem_map.mp listed with ⟨entry, member, rfl⟩
    rcases exists_wildcardScore (trimmed entry.1 listed) lower covers with
      ⟨value, scored, positive⟩
    have found : (Best.scan (fun entry => wildcardScore (normalizeHost host) entry.1)
        map.entries).isSome = true :=
      Best.isSome_scan.mpr ⟨entry, member, value, scored, positive⟩
    rw [scanned] at found
    cases found

theorem portless_of_wildcardScore (portless : ':' ∉ host)
    (scored : wildcardScore host key = some value) : key ≠ [] ∧ ':' ∉ key := by
  rcases covers_of_scored scored with ⟨suffix, rfl, covered⟩
  rcases wildcardCoversHost_wildcard.mp covered with ⟨label, -, -, whole⟩
  refine ⟨by simp, ?_⟩
  intro member
  have inSuffix : ':' ∈ suffix := by simpa using member
  have kept := @mem_trimEndMatches isWhitespace _ _ (by decide) inSuffix
  have lowered : ':' ∈ toAsciiLowercase (trim host) := by
    rw [whole]
    simp [kept]
  have trimmed := mem_of_mem_toAsciiLowercase (by decide) lowered
  exact portless (mem_of_mem_trimMatches trimmed)

theorem portless_of_selectedKey (selected : selectedKey map host = some key) :
    key ≠ [] ∧ ':' ∉ key := by
  have portless : ':' ∉ normalizeHost host := by
    intro member
    exact not_mem_before ':' host (mem_of_mem_toAsciiLowercase (by decide) member)
  unfold selectedKey at selected
  dsimp only at selected
  split at selected
  · cases selected
  rename_i named
  split at selected
  · cases selected
    exact ⟨by simpa using named, portless⟩
  split at selected
  · next score entry scanned =>
    cases selected
    exact portless_of_wildcardScore portless (Best.scan_sound scanned).2
  · cases selected
    decide

theorem selectedKey_self (known : key ∈ map.keys) (named : key ≠ []) (portless : ':' ∉ key)
    (lower : toAsciiLowercase key = key) : selectedKey map key = some key := by
  have same : normalizeHost key = key := by
    rw [normalizeHost, before_eq_self portless, lower]
  have some : key.isEmpty = false := by simpa using named
  simp [selectedKey, same, some, contains_iff.mpr known]

structure RouteTable where
  routes : HashMap Text (List Route)
  edge : HashMap Text (HashMap Text EdgePolicy)
  globals : EdgeGlobals

namespace RouteTable

/-- Tables that differ in the iteration order of their maps only. -/
structure Reorders (left right : RouteTable) : Prop where
  routes : left.routes.Reorders right.routes
  edge : left.edge.Reorders right.edge

/-- Tables with the same contents, whatever the order of their maps. -/
structure Alike (left right : RouteTable) : Prop where
  routes : left.routes.Reorders right.routes
  edge : ∀ host, Option.Rel HashMap.Reorders (left.edge.get? host) (right.edge.get? host)
  globals : left.globals = right.globals

theorem Alike.refl (table : RouteTable) : table.Alike table := by
  refine ⟨.refl _, ?_, rfl⟩
  intro host
  cases table.edge.get? host with
  | none => exact .none
  | some policies => exact .some (.refl _)

def empty : RouteTable where
  routes := ∅
  edge := ∅
  globals := {}

def routesForHost (table : RouteTable) (host : Text) : Option (List Route) :=
  selectHost table.routes host

def matchRouteEntry (table : RouteTable) (host path : Text) : Option Route :=
  (table.routesForHost host).bind fun routes => findRoute routes path

def hasHost (table : RouteTable) (host : Text) : Bool :=
  let host := normalizeHost host
  !host.isEmpty && (table.routesForHost host).isSome

theorem hasHost_of_match
    (matched : table.matchRouteEntry host path = some route) : table.hasHost host = true := by
  rcases bind_eq_some_iff.mp matched with ⟨routes, found, -⟩
  have named : normalizeHost host ≠ [] := by
    intro unnamed
    simp [routesForHost, selectHost, unnamed] at found
  have same : table.routesForHost (normalizeHost host) = table.routesForHost host := by
    simp [routesForHost, selectHost, normalizeHost_idem]
  simp [hasHost, same, found, named]

def allRoutes (table : RouteTable) : List (Text × Route) :=
  table.routes.entries.flatMap fun entry => entry.2.map fun route => (entry.1, route)

theorem mem_allRoutes :
    (host, route) ∈ table.allRoutes ↔
      ∃ routes, table.routes.get? host = some routes ∧ route ∈ routes := by
  simp only [allRoutes, List.mem_flatMap, List.mem_map, Prod.mk.injEq]
  constructor
  · rintro ⟨entry, member, found, listed, rfl, rfl⟩
    exact ⟨entry.2, get?_eq_some_iff.mpr member, listed⟩
  · rintro ⟨routes, stored, listed⟩
    exact ⟨(host, routes), get?_eq_some_iff.mp stored, route, listed, rfl, rfl⟩

theorem Reorders.mem_allRoutes {left right : RouteTable} (reorders : left.Reorders right)
    {entry : Text × Route} : entry ∈ left.allRoutes ↔ entry ∈ right.allRoutes := by
  rw [RouteTable.mem_allRoutes, RouteTable.mem_allRoutes, reorders.routes.get?_eq]

theorem listed_of_match
    (matched : table.matchRouteEntry host path = some route) :
    ∃ key, selectedKey table.routes host = some key ∧ (key, route) ∈ table.allRoutes := by
  rcases bind_eq_some_iff.mp matched with ⟨routes, stored, found⟩
  rw [routesForHost, selectHost_eq] at stored
  rcases bind_eq_some_iff.mp stored with ⟨key, selected, inside⟩
  exact ⟨key, selected,
    RouteTable.mem_allRoutes.mpr ⟨routes, inside, List.mem_of_find?_eq_some found⟩⟩

theorem exists_match
    (listed : (host, route) ∈ table.allRoutes) (named : host ≠ []) (portless : ':' ∉ host)
    (lower : toAsciiLowercase host = host) :
    ∃ found, table.matchRouteEntry host route.path = some found ∧
      (host, found) ∈ table.allRoutes := by
  rcases RouteTable.mem_allRoutes.mp listed with ⟨routes, stored, member⟩
  have known : host ∈ table.routes.keys := by
    rw [mem_keys_iff, stored]
    rfl
  have selected : table.routesForHost host = some routes := by
    rw [routesForHost, selectHost_eq, selectedKey_self known named portless lower]
    exact stored
  have matching : (findRoute routes route.path).isSome = true := by
    rw [findRoute, List.find?_isSome]
    exact ⟨route, member, pathMatches_self route.pathType route.path⟩
  rcases isSome_iff_exists.mp matching with ⟨found, first⟩
  refine ⟨found, ?_, ?_⟩
  · rw [matchRouteEntry, selected]
    exact first
  · exact RouteTable.mem_allRoutes.mpr ⟨routes, stored, List.mem_of_find?_eq_some first⟩

/-- Stable sort by path length, longest first. -/
def sortRoutes (routes : List Route) : List Route :=
  routes.insertionSort fun left right => right.path.len ≤ left.path.len

def fromRoutes (byHost : HashMap Text (List Route)) : RouteTable where
  routes := byHost.mapValues sortRoutes
  edge := ∅
  globals := {}

def insertEdge (table : RouteTable) (host path : Text) (policy : EdgePolicy) : RouteTable :=
  { table with
    edge := table.edge.upsert (normalizeHost host) fun paths =>
      (paths.getD ∅).insert path policy }

def matchedHostKey (table : RouteTable) (host : Text) : Text :=
  let host := normalizeHost host
  if table.routes.contains host || table.edge.contains host then host
  else
    let score := fun key =>
      if startsWith key "*." && wildcardCoversHost key host then some (len key)
      else none
    match Best.scan score (table.routes.keys ++ table.edge.keys) with
    | some (_, key) => key
    | none => if table.routes.contains "*" then "*" else host

def edgeFor (table : RouteTable) (host routePath : Text) : EdgePolicy :=
  let key := table.matchedHostKey host
  ((table.edge.get? key).bind fun paths => paths.get? routePath).getD {}

end RouteTable

/-! ## Upstream addresses -/

def normalizeUpstreamHost (host : Text) : Text :=
  if eqIgnoreAsciiCase host "localhost" then "127.0.0.1" else host

def hostPort (host : Text) (port : Nat) : Text :=
  host ++ ':' :: ofNat port

def parseHostPort (raw : Text) : Option Backend :=
  let withoutPath := before '/' raw
  match rsplitOnce ':' withoutPath with
  | some (host, port) =>
    (parseUnsigned u16Max port).map fun port =>
      { address := hostPort (normalizeUpstreamHost host) port, port, useTls := false }
  | none =>
    some { address := hostPort (normalizeUpstreamHost withoutPath) 80, port := 80,
           useTls := false }

def backendOfUrl (url : Url) : Option Backend :=
  if url.scheme == "file".toList then
    if url.path.isEmpty then none
    else some { address := "file:".toList ++ url.path, port := 0, useTls := false }
  else if url.scheme == "consul".toList then
    let name := (url.host.filter fun host => !host.isEmpty).getD
      (trimMatches (· == '/') url.path)
    if name.isEmpty then none
    else some { address := "consul:".toList ++ name, port := 0, useTls := false }
  else if url.scheme == "auto".toList then
    url.host.map fun host =>
      let port := url.port.getD 443
      { address := "auto:".toList ++ hostPort (normalizeUpstreamHost host) port, port,
        useTls := false }
  else
    url.host.map fun host =>
      let useTls := url.scheme == "https".toList
      let port := url.portOrKnownDefault.getD (if useTls then 443 else 80)
      { address := hostPort (normalizeUpstreamHost host) port, port, useTls }

def parseUpstream (platform : Platform) (raw : Text) : Option Backend :=
  let trimmed := trim (trimEndMatches (· == ';') (trim raw))
  if trimmed.isEmpty then none
  else
    match (if trimmed.contains "://" then platform.parseUrl trimmed else none) with
    | some url => backendOfUrl url
    | none => parseHostPort trimmed

/-! ## What an upstream names -/

/-- A directory, a Consul service, a host to be probed for TLS, or a host to
connect to as it is. -/
inductive Upstream where
  | file (root : Text)
  | consul (service : Text)
  | auto (host : Text) (port : Nat)
  | direct (host : Text) (port : Nat) (useTls : Bool)
deriving DecidableEq

namespace Upstream

def backend : Upstream → Backend
  | .file root => { address := "file:".toList ++ root, port := 0, useTls := false }
  | .consul service => { address := "consul:".toList ++ service, port := 0, useTls := false }
  | .auto host port =>
    { address := "auto:".toList ++ (host ++ ':' :: ofNat port), port, useTls := false }
  | .direct host port useTls => { address := host ++ ':' :: ofNat port, port, useTls }

def ofUrl (url : Url) : Option Upstream :=
  if url.scheme = "file".toList then
    if url.path = [] then none else some (.file url.path)
  else if url.scheme = "consul".toList then
    let service := (url.host.filter fun host => !host.isEmpty).getD
      (trimMatches (· == '/') url.path)
    if service = [] then none else some (.consul service)
  else if url.scheme = "auto".toList then
    url.host.map fun host => .auto (normalizeUpstreamHost host) (url.port.getD 443)
  else
    url.host.map fun host =>
      let useTls := url.scheme == "https".toList
      .direct (normalizeUpstreamHost host)
        (url.portOrKnownDefault.getD (if useTls then 443 else 80)) useTls

/-- A host and a port after its last colon, 80 if there is none; a path is
ignored. -/
def ofHostPort (text : Text) : Option Upstream :=
  match rsplitOnce ':' (before '/' text) with
  | some (host, port) =>
    (parseUnsigned u16Max port).map fun port =>
      .direct (normalizeUpstreamHost host) port false
  | none => some (.direct (normalizeUpstreamHost (before '/' text)) 80 false)

end Upstream

def upstreamText (raw : Text) : Text :=
  trim (trimEndMatches (· == ';') (trim raw))

def upstreamUrl (platform : Platform) (raw : Text) : Option Url :=
  if (upstreamText raw).contains "://" then platform.parseUrl (upstreamText raw) else none

def namedUpstream (platform : Platform) (raw : Text) : Option Upstream :=
  if upstreamText raw = [] then none
  else
    match upstreamUrl platform raw with
    | some url => Upstream.ofUrl url
    | none => Upstream.ofHostPort (upstreamText raw)

theorem Upstream.ofUrl_http (http : url.scheme = "http".toList)
    (named : Upstream.ofUrl url = some upstream) :
    ∃ host port, upstream = .direct host port false ∧
      (url.host = some host ∨ host = "127.0.0.1".toList) := by
  unfold Upstream.ofUrl at named
  rw [http, if_neg (by decide), if_neg (by decide), if_neg (by decide)] at named
  rcases map_eq_some_iff.mp named with ⟨host, found, rfl⟩
  refine ⟨_, _, rfl, ?_⟩
  unfold normalizeUpstreamHost
  split
  · exact .inr rfl
  · exact .inl found

theorem file_of_namedUpstream (named : namedUpstream platform raw = some (.file root)) :
    ∃ text url, platform.parseUrl text = some url ∧ url.scheme = "file".toList ∧
      url.path = root := by
  unfold namedUpstream at named
  split at named
  · cases named
  split at named
  · next url parsed =>
    unfold upstreamUrl at parsed
    split at parsed
    · refine ⟨upstreamText raw, url, parsed, ?_⟩
      unfold Upstream.ofUrl at named
      split at named
      · next file =>
        split at named
        · cases named
        · cases named
          exact ⟨file, rfl⟩
      split at named
      · dsimp only at named
        split at named <;> cases named
      · split at named <;>
        · rcases map_eq_some_iff.mp named with ⟨host, -, equal⟩
          cases equal
    · cases parsed
  · unfold Upstream.ofHostPort at named
    split at named
    · rcases map_eq_some_iff.mp named with ⟨port, -, equal⟩
      cases equal
    · cases named

theorem backendOfUrl_eq (url : Url) :
    backendOfUrl url = (Upstream.ofUrl url).map Upstream.backend := by
  unfold backendOfUrl Upstream.ofUrl
  simp only [beq_iff_eq, List.isEmpty_iff]
  split
  · split <;> rfl
  split
  · split <;> rfl
  · split
    · simp only [map_map]
      rfl
    · simp only [map_map]
      rfl

theorem parseHostPort_eq (raw : Text) :
    parseHostPort raw = (Upstream.ofHostPort raw).map Upstream.backend := by
  unfold parseHostPort Upstream.ofHostPort
  dsimp only
  split
  · next host port _ =>
    simp only [map_map]
    rfl
  · rfl

/-- An accepted upstream is stored as the backend that stands for it. -/
theorem parseUpstream_eq (platform : Platform) (raw : Text) :
    parseUpstream platform raw = (namedUpstream platform raw).map Upstream.backend := by
  change (if (upstreamText raw).isEmpty = true then none
    else match upstreamUrl platform raw with
      | some url => backendOfUrl url
      | none => parseHostPort (upstreamText raw)) = _
  unfold namedUpstream
  simp only [List.isEmpty_iff]
  split
  · rfl
  · cases upstreamUrl platform raw with
    | some url => exact backendOfUrl_eq url
    | none => exact parseHostPort_eq (upstreamText raw)

/-! Which paths a route of type `Prefix` covers, and which of the routes of one path a
request gets. -/

open List Bool

theorem splitOn_injective : Function.Injective fun path : Text => path.splitOn '/' :=
  Function.LeftInverse.injective (g := intercalate ['/'])
    fun _ => intercalate_splitOn '/'

/-- Elements that start those of a request are the request, or end at a slash of it. -/
theorem splitOn_isPrefix_iff (path request : Text) : path.splitOn '/' <+: request.splitOn '/' ↔
      request = path ∨ path ++ ['/'] <+: request := by
  constructor
  · rintro ⟨more, equal⟩
    by_cases whole : more = []
    · rw [whole, append_nil] at equal
      exact .inl (splitOn_injective equal.symm)
    have plain : ∀ piece ∈ more, '/' ∉ piece := by
      intro piece listed slash
      have member : piece ∈ request.splitOn '/' := equal ▸ mem_append_right _ listed
      exact absurd (not_of_mem_splitOnP member '/' slash) (by decide)
    refine .inr ⟨['/'].intercalate more, splitOn_injective ?_⟩
    dsimp only
    rw [append_assoc, singleton_append, splitOn_append_cons_self,
      splitOn_intercalate '/' plain whole, equal]
  · rintro (rfl | ⟨rest, rfl⟩)
    · exact prefix_refl _
    · rw [append_assoc, singleton_append, splitOn_append_cons_self]
      exact prefix_append _ _

/-- The rule of Kubernetes for `Prefix`: the elements of the path, without a trailing
slash, start those of the request. -/
def CoversElements (path request : Text) : Prop :=
  (if endsWith path "/" then path.dropLast else path).splitOn '/' <+: request.splitOn '/'

theorem pathMatches_lead_iff (path request : Text) :
    (pathMatches .lead path request = true ↔ CoversElements path request) ↔
      path ≠ request ++ ['/'] := by
  unfold CoversElements pathMatches
  rw [splitOn_isPrefix_iff]
  cases ends : endsWith path "/" with
  | true =>
    obtain ⟨base, rfl⟩ := endsWith_iff.mp ends
    have cut : (base ++ "/".toList).dropLast = base := dropLast_concat
    simp only [Bool.true_and, Bool.not_true, Bool.false_and, Bool.or_false, Bool.or_eq_true,
      beq_iff_eq, startsWith_iff, if_true, cut]
    change (request = base ++ ['/'] ∨ base ++ ['/'] <+: request ↔ _) ↔
      base ++ ['/'] ≠ request ++ ['/']
    rw [or_iff_right_of_imp (fun same => same ▸ prefix_refl _), ne_eq,
      append_cancel_right_eq, eq_comm]
    by_cases same : request = base
    · have longer : ¬ base ++ ['/'] <+: base := fun inside =>
        absurd inside.length_le (by simp)
      simp [same, longer]
    · simp [Ne.symm same]
  | false =>
    have other : path ≠ request ++ ['/'] := by
      rintro rfl
      exact absurd (endsWith_iff.mpr (suffix_append request _)) (ne_true_of_eq_false ends)
    simp only [Bool.false_and, Bool.not_false, Bool.true_and, Bool.or_false, Bool.or_eq_true,
      beq_iff_eq, startsWith_iff, false_eq_true, if_false]
    refine iff_of_true ⟨?_, fun covers => .inr covers.symm⟩ other
    rintro (same | below | same)
    · exact .inl same
    · exact .inr below
    · exact .inl same

/-- The routes that are configured for a host. -/
def hostRoutes (byHost : HashMap Text (List Route)) (host : Text) : Option (List Route) :=
  (selectedKey (RouteTable.fromRoutes byHost).routes host).bind byHost.get?

theorem matchRouteEntry_fromRoutes (byHost : HashMap Text (List Route)) (host path : Text) :
    (RouteTable.fromRoutes byHost).matchRouteEntry host path =
      (hostRoutes byHost host).bind fun routes => findRoute (RouteTable.sortRoutes routes) path := by
  unfold RouteTable.matchRouteEntry RouteTable.routesForHost hostRoutes
  rw [selectHost_eq, bind_assoc, bind_assoc]
  congr 1
  funext key
  rw [show (RouteTable.fromRoutes byHost).routes = byHost.mapValues RouteTable.sortRoutes from rfl,
    HashMap.get?_mapValues]
  cases byHost.get? key <;> rfl

theorem isPrefix_of_pathMatches {route : Route} {path : Text}
    (matched : pathMatches route.pathType route.path path = true) : route.path <+: path := by
  unfold pathMatches at matched
  split at matched
  · rw [beq_iff_eq.mp matched]
  · simp only [or_eq_true, and_eq_true, beq_iff_eq, startsWith_iff] at matched
    rcases matched with (same | below) | ⟨-, below | same⟩
    · rw [same]
    · exact below.2
    · exact (prefix_append _ _).trans below
    · rw [same]
  · exact startsWith_iff.mp matched

/-- Of the routes of the path itself the first in the configuration wins. -/
theorem findRoute_sortRoutes (listed : route ∈ routes) (named : route.path = path) :
    findRoute (RouteTable.sortRoutes routes) path =
      routes.find? fun route => route.path == path := by
  have itself : ∀ {other : Route}, other.path = path →
      pathMatches other.pathType other.path path = true := by
    rintro other rfl
    exact pathMatches_self other.pathType other.path
  have best : Best.FirstHeaviest (fun route => route.path.len)
      (fun route => pathMatches route.pathType route.path path) routes
      (findRoute (RouteTable.sortRoutes routes) path) := Best.firstHeaviest_insertionSort routes
  cases found : findRoute (RouteTable.sortRoutes routes) path with
  | none =>
    rw [found] at best
    exact absurd (itself named) (ne_true_of_eq_false (best route listed))
  | some winner =>
    rw [found] at best
    have heaviest := best.weight_le listed (itself named)
    obtain ⟨matched, before, after, rfl, earlier, -⟩ := best
    obtain ⟨rest, whole⟩ := isPrefix_of_pathMatches matched
    have lengths := congrArg len whole
    rw [len_append, ← named] at lengths
    have empty := eq_nil_of_len_eq_zero (by omega : len rest = 0)
    rw [empty, append_nil] at whole
    rw [eq_comm, find?_eq_some_iff_append]
    refine ⟨by simpa using whole, before, after, rfl, fun other member => ?_⟩
    by_contra same
    have equal : other.path = path := by simpa using same
    have lighter : other.path.len < winner.path.len := earlier other member (itself equal)
    rw [equal, whole] at lighter
    exact Nat.lt_irrefl _ lighter

section

variable (byHost : HashMap Text (List Route)) (host path : Text)

/-- The routes of the host cover paths by elements, and an exact route comes before one of
type `Prefix` with its path. -/
def FollowsIngress : Prop :=
  ∀ routes, hostRoutes byHost host = some routes →
    (∀ route ∈ routes, route.pathType = .lead →
      (pathMatches route.pathType route.path path = true ↔ CoversElements route.path path)) ∧
    ∀ exact ∈ routes, ∀ lead ∈ routes, exact.pathType = .exact → lead.pathType = .lead →
      exact.path = lead.path → pathMatches exact.pathType exact.path path = true →
      pathMatches lead.pathType lead.path path = true →
      ((RouteTable.fromRoutes byHost).matchRouteEntry host path).map
        (fun route => (route.path, route.pathType)) = some (exact.path, .exact)

/-- No route of type `Prefix` is the request and a slash, and where the request is the path
of routes of both types, an exact one comes first in the configuration. -/
theorem follows_ingress_iff : FollowsIngress byHost host path ↔
      ∀ routes, hostRoutes byHost host = some routes →
        (∀ route ∈ routes, route.pathType = .lead → route.path ≠ path ++ ['/']) ∧
        ∀ exact ∈ routes, ∀ lead ∈ routes, exact.pathType = .exact → lead.pathType = .lead →
          exact.path = path → lead.path = path →
          (routes.find? fun route => route.path == path).map Route.pathType = some .exact := by
  refine forall_congr' fun routes => forall_congr' fun configured => and_congr ?_ ?_
  · refine forall₂_congr fun route listed => forall_congr' fun typed => ?_
    rw [typed]
    exact pathMatches_lead_iff route.path path
  refine forall₄_congr fun exact listed lead member => forall₂_congr fun strict loose => ?_
  have found : exact.path = path → (RouteTable.fromRoutes byHost).matchRouteEntry host path =
      routes.find? fun route => route.path == path := by
    intro same
    rw [matchRouteEntry_fromRoutes, configured, bind_some,
      findRoute_sortRoutes listed same]
  constructor
  · rintro selects same rfl
    have chosen := selects same (same ▸ pathMatches_self _ _) (pathMatches_self _ _)
    rw [found same] at chosen
    simpa using congrArg (Option.map Prod.snd) chosen
  intro first equal matched _
  have same : exact.path = path := by
    rw [strict] at matched
    exact beq_iff_eq.mp matched
  obtain ⟨winner, won, typed⟩ := map_eq_some_iff.mp (first same (equal ▸ same))
  have named : winner.path = path := by simpa using find?_some won
  rw [found same, won, same, map_some, named, typed]

end

def appRoute (path : Text) (pathType : ProxyConfig.PathMatchType) : Route where
  path
  pathType
  backend := { address := "10.0.0.1:80", port := 80, useTls := false }

/-- `/api/` does not match `/api`, and of two routes for `/api` the first one wins. -/
theorem api_route_misses :
    pathMatches .lead "/api/" "/api" = false ∧ CoversElements "/api/" "/api" ∧
      let byHost : HashMap Text (List Route) := HashMap.empty.insert "a.example"
        [appRoute "/api" .lead, appRoute "/api" .exact]
      ((RouteTable.fromRoutes byHost).matchRouteEntry "a.example" "/api").map Route.pathType =
        some .lead := by
  refine ⟨by decide, ?_, by decide⟩
  unfold CoversElements
  decide

end PertiskProxy.Router
