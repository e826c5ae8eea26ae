import PertiskProxy.Proxy.Origins
import PertiskProxy.RoutesConfig

/-! `migrate_from_routes_yaml` (`proxy/apply.rs`) turns the table of a routes file into a
configuration, with one site for each route and generated names for the backends. -/

namespace PertiskProxy.Proxy

open ProxyConfig Router RoutesConfig Text Option

variable {route : Route} {served table : RouteTable} {host : Text}

/-- The upstream that is stored for a backend. The address has its port already. -/
def migratedUpstream (backend : Router.Backend) : Text :=
  "http://".toList ++ (backend.address ++ ':' :: ofNat backend.port)

def migratedName (backend : Router.Backend) : Text :=
  "backend-".toList ++ replaceChar ':' "-" backend.address

def migratedSite (host : Text) (route : Route) : Site where
  host := host
  routes := [{ pathType := route.pathType, path := route.path }]
  backend := migratedName route.backend
  http3AltSvcEnabled := true
  forwardClientIp := false

/-- The upstreams by name; of several with one name the first stays. -/
def migratedUpstreams (routes : List (Text × Route)) : HashMap Text Text :=
  routes.foldl
    (fun backends entry => backends.upsert (migratedName entry.2.backend) fun existing =>
      existing.getD (migratedUpstream entry.2.backend)) ∅

def migratedBackend (name addr : Text) : ProxyConfig.Backend where
  name := name
  upstreams := [{ addr, weight := 1 }]

def migratedConfig (loaded : LoadedRoutes) : Config where
  sites := loaded.table.allRoutes.map fun entry => migratedSite entry.1 entry.2
  backends := (migratedUpstreams loaded.table.allRoutes).entries.map fun entry =>
    migratedBackend entry.1 entry.2
  tls := loaded.tls
  http3 := loaded.http3

/-- The routes are listed in the iteration order of the host map, which is not
specified. -/
def migrateFromRoutesYaml (platform : Platform) (parsers : RouteParsers)
    (order : RouteTable → RouteTable) (yaml : Text) : Except RoutesError Config := do
  let loaded ← loadFromStr platform parsers yaml
  .ok (migratedConfig { loaded with table := order loaded.table })

/-! ## Printed upstreams -/

/-- The characters that end the host and port of a URL, or what stands before them. -/
def urlDelimiters : List Char := ['/', '?', '#', '\\', '@']

def Undelimited (text : Text) : Prop :=
  ∀ c ∈ text, c ∉ urlDelimiters

instance (text : Text) : Decidable (Undelimited text) :=
  decidable_of_iff ((text.all fun c => !urlDelimiters.contains c) = true) (by
    simp [Undelimited])

/-- What the URL standard and the Unicode case tables say of the texts printed and
parsed here. -/
structure Documented (platform : Platform) : Prop where
  scheme : ∀ rest url, platform.parseUrl ("http://".toList ++ rest) = some url →
    url.scheme = "http".toList
  /-- A host has no delimiter in it. -/
  host : ∀ text url host, platform.parseUrl text = some url → url.host = some host →
    Undelimited host
  /-- The path of a file URL is absolute. -/
  filePath : ∀ text url, platform.parseUrl text = some url → url.scheme = "file".toList →
    '/' ∈ url.path
  /-- After a name and a colon stands a port, of digits only. -/
  port : ∀ name rest, Undelimited (name ++ rest) → '[' ∉ name → ':' ∉ name → ':' ∈ rest →
    platform.parseUrl ("http://".toList ++ (name ++ ':' :: rest)) = none
  /-- A host and port, bracketed or not, is not followed by another port. -/
  onePort : ∀ host first second, Undelimited host →
    platform.parseUrl ("http://".toList ++
      ((host ++ ':' :: ofNat first) ++ ':' :: ofNat second)) = none
  /-- Lowering the case loses no colon. -/
  colon : ∀ text, ':' ∈ text → ':' ∈ platform.toLowercase text
  /-- Only the empty text is lowered to the empty text. -/
  empty : ∀ text, platform.toLowercase text = [] ↔ text = []

section

variable {platform : Platform}

theorem undelimited_append :
    Undelimited (left ++ right) ↔ Undelimited left ∧ Undelimited right := by
  simp [Undelimited, or_imp, forall_and]

theorem undelimited_digits (value : Nat) : Undelimited (ofNat value) := by
  intro c member delimits
  have digit := isDigit_of_mem_ofNat member
  simp only [urlDelimiters, List.mem_cons, List.not_mem_nil, or_false] at delimits
  rcases delimits with rfl | rfl | rfl | rfl | rfl <;> cases digit

theorem undelimited_hostPort (plain : Undelimited host) (port : Nat) :
    Undelimited (host ++ ':' :: ofNat port) := by
  rw [undelimited_append]
  refine ⟨plain, ?_⟩
  intro c member
  rcases List.mem_cons.mp member with rfl | digit
  · decide
  · exact undelimited_digits port c digit

theorem undelimited_printed (kind : Text) (plain : Undelimited (kind ++ ':' :: rest)) :
    Undelimited (kind ++ (rest ++ ':' :: ofNat port)) := by
  rcases undelimited_append.mp plain with ⟨lead, tail⟩
  refine undelimited_append.mpr ⟨lead, undelimited_hostPort ?_ port⟩
  intro c member
  exact tail c (List.mem_cons_of_mem _ member)

theorem upstreamText_printed (backend : Router.Backend) :
    upstreamText (migratedUpstream backend) = migratedUpstream backend := by
  have some := ofNat_ne_nil backend.port
  have digit := isDigit_of_mem_ofNat (List.getLast_mem some)
  generalize last : (ofNat backend.port).getLast some = c at digit
  have whole : ∃ middle, migratedUpstream backend = 'h' :: (middle ++ [c]) := by
    refine ⟨"ttp://".toList ++ (backend.address ++ ':' :: (ofNat backend.port).dropLast), ?_⟩
    rw [← last, List.append_assoc, List.append_assoc, List.cons_append,
      List.dropLast_append_getLast some]
    rfl
  rcases whole with ⟨middle, whole⟩
  have semicolon : (c == ';') = false := by
    rw [beq_eq_false_iff_ne]
    rintro rfl
    cases digit
  have trimmed : trim (migratedUpstream backend) = migratedUpstream backend := by
    rw [whole]
    exact trimMatches_ends (by decide) (isWhitespace_of_isDigit digit) middle
  have uncut : trimEndMatches (· == ';') (migratedUpstream backend) =
      migratedUpstream backend := by
    rw [whole]
    exact @trimEndMatches_append_cons (· == ';') c semicolon ('h' :: middle) []
  rw [upstreamText, trimmed, uncut, trimmed]

theorem parseUpstream_printed (backend : Router.Backend) :
    parseUpstream platform (migratedUpstream backend) =
      ((platform.parseUrl (migratedUpstream backend)).bind Upstream.ofUrl).map
        Upstream.backend := by
  have url : upstreamUrl platform (migratedUpstream backend) =
      platform.parseUrl (migratedUpstream backend) := by
    have infixed : contains (migratedUpstream backend) "://" = true := by
      rw [contains, decide_eq_true_eq]
      exact ⟨"http".toList, backend.address ++ ':' :: ofNat backend.port, rfl⟩
    rw [upstreamUrl, upstreamText_printed, if_pos infixed]
  have direct : Upstream.ofHostPort (migratedUpstream backend) = none := by
    have lead : before '/' (migratedUpstream backend) = "http:".toList :=
      (before_append_separator '/' "http:".toList _).trans rfl
    rw [Upstream.ofHostPort, lead]
    decide
  have some : migratedUpstream backend ≠ [] := List.cons_ne_nil 'h' _
  rw [parseUpstream_eq, namedUpstream, upstreamText_printed, url, direct, if_neg some]
  cases platform.parseUrl (migratedUpstream backend) <;> rfl

theorem undelimited_reread (documented : Documented platform)
    (reread : parseUpstream platform (migratedUpstream backend) = some again) :
    Undelimited again.address := by
  rw [parseUpstream_printed] at reread
  rcases map_eq_some_iff.mp reread with ⟨upstream, found, rfl⟩
  rcases bind_eq_some_iff.mp found with ⟨url, parsed, named⟩
  rcases Upstream.ofUrl_http (documented.scheme _ _ parsed) named with
    ⟨host, port, rfl, hosted | rfl⟩
  · have plain := documented.host _ _ _ parsed hosted
    exact undelimited_hostPort plain port
  · exact undelimited_hostPort (by decide) port

theorem reread_of_undelimited (documented : Documented platform)
    (read : parseUpstream platform upstream = some backend)
    (plain : Undelimited backend.address) :
    parseUpstream platform (migratedUpstream backend) = none := by
  rw [parseUpstream_eq] at read
  rcases map_eq_some_iff.mp read with ⟨named, found, rfl⟩
  have refused : platform.parseUrl (migratedUpstream named.backend) = none := by
    cases named with
    | file root =>
      -- The path of a file URL has a slash, so the address is not plain.
      rcases file_of_namedUpstream found with ⟨text, url, parsed, file, rfl⟩
      have slash := documented.filePath text url parsed file
      exact absurd (by decide) (plain '/' (List.mem_append_right _ slash))
    | consul service =>
      exact documented.port "consul".toList (service ++ ':' :: ofNat 0)
        (undelimited_printed "consul".toList plain) (by decide) (by decide) (by simp)
    | auto host port =>
      exact documented.port "auto".toList ((host ++ ':' :: ofNat port) ++ ':' :: ofNat port)
        (undelimited_printed "auto".toList plain) (by decide) (by decide) (by simp)
    | direct host port useTls =>
      exact documented.onePort host port port (undelimited_append.mp plain).1
  rw [parseUpstream_printed, refused]
  rfl

theorem undelimited_of_sameName (same : migratedName left = migratedName right)
    (plain : Undelimited left.address) : Undelimited right.address := by
  have replaced := List.append_cancel_left same
  intro c member delimits
  have kept : c ≠ ':' ∧ c ≠ '-' := by
    simp only [urlDelimiters, List.mem_cons, List.not_mem_nil, or_false] at delimits
    rcases delimits with rfl | rfl | rfl | rfl | rfl <;> decide
  have inside := (mem_replaceChar kept.1 kept.2).mpr member
  have before : c ∈ left.address := by
    rw [← mem_replaceChar kept.1 kept.2]
    exact replaced ▸ inside
  exact plain c before delimits

end

/-! ## The migrated table -/

section

variable {platform : Platform} {loaded : LoadedRoutes}

def migratedTarget (platform : Platform) (routes : List (Text × Route)) (route : Route) :
    Option Router.Backend :=
  ((migratedUpstreams routes).get? (migratedName route.backend)).bind (parseUpstream platform)

theorem toOption_migratedTarget (host : Text) (route : Route) :
    (defaultTarget platform (migratedConfig loaded) (migratedSite host route)).toOption =
      migratedTarget platform loaded.table.allRoutes route := by
  have named : (migratedConfig loaded).backends.map (fun backend => (backend.name, backend)) =
      (migratedUpstreams loaded.table.allRoutes).entries.map
        fun entry => (entry.1, migratedBackend entry.1 entry.2) :=
    List.map_map
  rw [toOption_defaultTarget, named, HashMap.get?_ofList_entries]
  change ((HashMap.get? _ (migratedName route.backend)).map _).bind _ = _
  rw [migratedTarget]
  cases (migratedUpstreams loaded.table.allRoutes).get? (migratedName route.backend) <;> rfl

theorem printed_of_migratedTarget (found : migratedTarget platform routes route = some target) :
    ∃ entry ∈ routes, migratedName entry.2.backend = migratedName route.backend ∧
      parseUpstream platform (migratedUpstream entry.2.backend) = some target := by
  rcases bind_eq_some_iff.mp found with ⟨upstream, stored, parsed⟩
  rw [migratedUpstreams, HashMap.get?_foldl_orInsert] at stored
  rcases map_eq_some_iff.mp stored with ⟨entry, first, rfl⟩
  have same := List.find?_some first
  exact ⟨entry, List.mem_of_find?_eq_some first, of_decide_eq_true same, parsed⟩

theorem isOk_migratedTable : (configToRouteTable platform (migratedConfig loaded)).isOk = true ↔
      ∀ entry ∈ loaded.table.allRoutes, platform.toLowercase (trim entry.1) ≠ [] →
        (migratedTarget platform loaded.table.allRoutes entry.2).isSome = true := by
  have single : ∀ (host : Text) (route : Route),
      (siteRoutes platform (migratedConfig loaded) (migratedSite host route)).isOk =
        (migratedTarget platform loaded.table.allRoutes route).isSome := by
    intro host route
    rw [← Fallible.isSome_toOption, toOption_siteRoutes_single platform (migratedConfig loaded)
      (show (migratedSite host route).routes = [_] from rfl) ⟨rfl, rfl⟩,
      toOption_migratedTarget, isSome_map]
  rw [isOk_configToRouteTable]
  constructor
  · intro built entry listed named
    rw [← single entry.1]
    exact built _ (List.mem_map_of_mem listed) named
  · intro found site configured named
    rcases List.mem_map.mp configured with ⟨entry, listed, rfl⟩
    rw [single]
    exact found entry listed named

theorem undelimited_of_migrated (documented : Documented platform)
    {path : Text}
    (built : configToRouteTable platform (migratedConfig loaded) = .ok table)
    (reorders : served.Reorders table) (matched : served.matchRouteEntry host path = some route) :
    Undelimited route.backend.address := by
  rcases origin_of_matchRouteEntry built reorders matched with ⟨key, origin, -, selected, rfl⟩
  rcases built_of_mem_origins (mem_origins_of_selectedOrigin selected) with
    ⟨configured, listed, target, default, made⟩
  rcases List.mem_map.mp configured with ⟨entry, -, site⟩
  rw [← site] at default listed made
  have entered := List.mem_singleton.mp listed
  rw [entered] at made
  have found := @toOption_migratedTarget platform loaded entry.1 entry.2
  rw [default] at found
  rcases printed_of_migratedTarget found.symm with ⟨_, -, -, parsed⟩
  have same : target = origin.route.backend := congrArg Route.backend (Except.ok.inj made)
  exact same ▸ undelimited_reread documented parsed

theorem listed_of_migrated
    (built : configToRouteTable platform (migratedConfig loaded) = .ok table)
    (reorders : served.Reorders table) (listed : (host, route) ∈ served.allRoutes) :
    ∃ entry ∈ loaded.table.allRoutes, platform.toLowercase (trim entry.1) = host := by
  rw [reorders.mem_allRoutes] at listed
  rcases RouteTable.mem_allRoutes.mp listed with ⟨routes, stored, -⟩
  have known : host ∈ table.routes.keys := by
    rw [HashMap.mem_keys_iff, stored]
    rfl
  rcases (mem_keys_routes_of_config built host).mp known with ⟨-, site, configured, same⟩
  rcases List.mem_map.mp configured with ⟨entry, member, rfl⟩
  exact ⟨entry, member, same⟩

end

/-! ## Decisions of the two tables -/

def decision (route : Route) : Router.Backend × List Middleware :=
  (route.backend, route.middlewares)

def SameDecisions (left right : RouteTable) : Prop :=
  ∀ host path, (left.matchRouteEntry host path).map decision =
    (right.matchRouteEntry host path).map decision

/-- A table can be built from the configuration, and decides as the one from the file. -/
def DecidesAs (platform : Platform) (read : RouteTable) (config : Config) : Prop :=
  ∃ table, configToRouteTable platform config = .ok table ∧
    ∀ served, RouteTable.Reorders served table → SameDecisions read served

/-- No request gets to a route of the file: its host is empty or has a port. Where it
has a port, the printed upstream has to be accepted all the same. -/
def OutOfReach (platform : Platform) (listed : RouteTable) : Prop :=
  ∀ entry ∈ listed.allRoutes, entry.1 = [] ∨ ':' ∈ entry.1 ∧
    (migratedTarget platform listed.allRoutes entry.2).isSome = true

section

variable {platform : Platform} {parsers : RouteParsers} {content : Text} {file : LoadedRoutes}
  {listed read : RouteTable}

section

variable (documented : Documented platform)

include documented

/-- With a route for a host that requests can have, the tables differ: the address in
the file has a delimiter in it or its upstream is refused, and no address of the new
table has one. -/
theorem not_decidesAs_of_route
    (loads : loadFromStr platform parsers content = .ok file)
    (reads : read.Reorders file.table) (lists : listed.Reorders file.table)
    (member : (host, route) ∈ file.table.allRoutes) (portless : ':' ∉ host)
    (named : trim host ≠ []) :
    ¬DecidesAs platform read (migratedConfig { file with table := listed }) := by
  rintro ⟨table, built, same⟩
  have some : host ≠ [] := by
    rintro rfl
    exact named rfl
  have lower := (readFrom_of_loaded loads member).1
  rcases RouteTable.exists_match (reads.mem_allRoutes.mpr member) some portless lower with
    ⟨found, matched, member⟩
  rw [reads.mem_allRoutes, ← lists.mem_allRoutes] at member
  have isOk : (configToRouteTable platform
      (migratedConfig { file with table := listed })).isOk = true := by
    rw [built]
    rfl
  have accepted := isOk_migratedTable.mp isOk (host, found) member
    (fun lowered => named ((documented.empty _).mp lowered))
  rcases isSome_iff_exists.mp accepted with ⟨target, accepted⟩
  rcases printed_of_migratedTarget accepted with ⟨entry, entered, sameName, parsed⟩
  have delimited : ¬Undelimited found.backend.address := by
    intro plain
    rcases readFrom_of_loaded loads (lists.mem_allRoutes.mp entered) with ⟨-, upstream, source⟩
    have refused := reread_of_undelimited documented source
      (undelimited_of_sameName sameName.symm plain)
    rw [parsed] at refused
    cases refused
  have agrees := same table ⟨List.Perm.refl _, List.Perm.refl _⟩ host route.path
  rw [matched] at agrees
  rcases map_eq_some_iff.mp agrees.symm with ⟨again, rematched, decided⟩
  have plain := undelimited_of_migrated documented built
    ⟨List.Perm.refl _, List.Perm.refl _⟩ rematched
  have sameBackend : again.backend = found.backend := congrArg Prod.fst decided
  exact delimited (sameBackend ▸ plain)

theorem colon_lowered (port : ':' ∈ host) : ':' ∈ platform.toLowercase (trim host) :=
  documented.colon _ (mem_trimMatches (by decide) port)

theorem named_of_reachable
    (loads : loadFromStr platform parsers content = .ok file)
    (reads : read.Reorders file.table) (lists : listed.Reorders file.table)
    (member : (host, route) ∈ file.table.allRoutes) (portless : ':' ∉ host)
    (some : host ≠ [])
    (decides : DecidesAs platform read (migratedConfig { file with table := listed })) :
    trim host ≠ [] := by
  intro blank
  rcases decides with ⟨table, built, same⟩
  have itself : RouteTable.Reorders table table := ⟨List.Perm.refl _, List.Perm.refl _⟩
  have lower := (readFrom_of_loaded loads member).1
  rcases RouteTable.exists_match (reads.mem_allRoutes.mpr member) some portless lower with
    ⟨found, matched, -⟩
  have agrees := same table itself host route.path
  rw [matched] at agrees
  rcases map_eq_some_iff.mp agrees.symm with ⟨again, rematched, -⟩
  have normal : normalizeHost host = host := by
    rw [normalizeHost, before_eq_self portless, lower]
  rcases selectedKey_of_config (by rwa [normal]) built itself with ⟨key, selected, chosen⟩
  rw [normal] at chosen
  cases chosen with
  | exact configured =>
    have trimmed := trim_of_configured configured
    exact some (trimmed.symm.trans blank)
  | wildcard _ _ covers =>
    rcases covers with ⟨label, suffix, -, whole, -⟩
    rw [blank] at whole
    simp at whole
  | fallback _ _ =>
    -- Only a route for `*` is left, and a host that stands for it is not blank.
    rcases RouteTable.listed_of_match rematched with ⟨star, selected', listed'⟩
    rw [selected] at selected'
    cases selected'
    rcases listed_of_migrated built itself listed' with ⟨entry, entered, lowered⟩
    have portless' : ':' ∉ entry.1 := by
      intro port
      have kept := colon_lowered documented port
      rw [lowered] at kept
      revert kept
      decide
    have named : trim entry.1 ≠ [] := by
      intro blank'
      rw [blank', (documented.empty []).mpr rfl] at lowered
      cases lowered
    exact not_decidesAs_of_route documented loads reads lists (lists.mem_allRoutes.mp entered)
      portless' named ⟨table, built, same⟩

end

theorem unmatched_read (lists : listed.Reorders file.table)
    (reads : read.Reorders file.table) (outOfReach : OutOfReach platform listed)
    (host path : Text) : read.matchRouteEntry host path = none := by
  cases matched : read.matchRouteEntry host path with
  | none => rfl
  | some route =>
    rcases RouteTable.listed_of_match matched with ⟨key, selected, member⟩
    rcases portless_of_selectedKey selected with ⟨named, portless⟩
    rw [reads.mem_allRoutes, ← lists.mem_allRoutes] at member
    rcases outOfReach _ member with unnamed | ⟨port, -⟩
    · exact absurd unnamed named
    · exact absurd port portless

theorem unmatched_served (documented : Documented platform)
    (built : configToRouteTable platform (migratedConfig { file with table := listed }) = .ok table)
    (reorders : served.Reorders table) (outOfReach : OutOfReach platform listed)
    (host path : Text) : served.matchRouteEntry host path = none := by
  cases matched : served.matchRouteEntry host path with
  | none => rfl
  | some route =>
    rcases RouteTable.listed_of_match matched with ⟨key, selected, member⟩
    rcases portless_of_selectedKey selected with ⟨named, portless⟩
    rcases listed_of_migrated built reorders member with ⟨entry, entered, rfl⟩
    rcases outOfReach _ entered with unnamed | ⟨port, -⟩
    · rw [unnamed] at named
      exact absurd ((documented.empty _).mpr rfl) named
    · exact absurd (colon_lowered documented port) portless

/-- The table built from a migrated file decides as the table loaded from it exactly
when no request gets to any of its routes. -/
theorem migration_decides_iff (documented : Documented platform) {order : RouteTable → RouteTable}
    (orders : ∀ table, (order table).Reorders table)
    (loads : loadFromStr platform parsers content = .ok file)
    (reads : read.Reorders file.table) {config : Config}
    (migrates : migrateFromRoutesYaml platform parsers order content = .ok config) :
    DecidesAs platform read config ↔ OutOfReach platform (order file.table) := by
  have lists := orders file.table
  rw [migrateFromRoutesYaml, loads] at migrates
  cases migrates
  constructor
  · intro decides entry member
    rw [lists.mem_allRoutes] at member
    by_cases some : entry.1 = []
    · exact .inl some
    right
    by_cases port : ':' ∈ entry.1
    · refine ⟨port, ?_⟩
      rcases decides with ⟨table, built, -⟩
      have isOk : (configToRouteTable platform
          (migratedConfig { file with table := order file.table })).isOk = true := by
        rw [built]
        rfl
      apply isOk_migratedTable.mp isOk entry (lists.mem_allRoutes.mpr member)
      intro lowered
      have kept := colon_lowered documented port
      rw [lowered] at kept
      cases kept
    · have named := named_of_reachable documented loads reads lists member port some decides
      exact absurd decides (not_decidesAs_of_route documented loads reads lists member port named)
  intro outOfReach
  have isOk : (configToRouteTable platform
      (migratedConfig { file with table := order file.table })).isOk = true := by
    rw [isOk_migratedTable]
    intro entry member named
    rcases outOfReach entry member with unnamed | ⟨-, accepted⟩
    · rw [unnamed] at named
      exact absurd ((documented.empty _).mpr rfl) named
    · exact accepted
  have built := Fallible.eq_ok_getD isOk .empty
  refine ⟨_, built, ?_⟩
  intro served reorders host path
  rw [unmatched_read lists reads outOfReach host path,
    unmatched_served documented built reorders outOfReach host path]

end

theorem documented_default : Documented default where
  scheme _ _ parsed := by cases parsed
  host _ _ _ parsed := by cases parsed
  filePath _ _ parsed := by cases parsed
  port _ _ _ _ _ _ := rfl
  onePort _ _ _ _ := rfl
  colon _ member := List.mem_map_of_mem member
  empty _ := List.map_eq_nil_iff

def routeFile (host : Text) : RouteParsers where
  json _ := none
  yaml _ := some { routes := [{ host := some host, path := "/", upstream := "10.0.0.1:80" }] }

def fileRoute : Route where
  path := "/"
  pathType := .lead
  backend := { address := "10.0.0.1:80", port := 80, useTls := false }
  forwardClientIp := false

def routeTable (host : Text) : RouteTable :=
  .fromRoutes (HashMap.ofList [(host, [fileRoute])])

theorem nameless_route_migrated :
    let file : LoadedRoutes := { table := routeTable [], tls := [], http3 := {} }
    (loadFromStr default (routeFile []) "routes" = .ok file) ∧
      ∃ config, migrateFromRoutesYaml default (routeFile []) id "routes" = .ok config ∧
        DecidesAs default file.table config := by
  intro file
  have loads : loadFromStr default (routeFile []) "routes" = .ok file := rfl
  refine ⟨loads, migratedConfig file, rfl, ?_⟩
  have itself : RouteTable.Reorders file.table file.table :=
    ⟨List.Perm.refl _, List.Perm.refl _⟩
  refine (migration_decides_iff documented_default
    (fun table => ⟨List.Perm.refl _, List.Perm.refl _⟩) loads itself rfl).mpr ?_
  intro entry member
  have only : entry ∈ [(([] : Text), fileRoute)] := member
  exact .inl (congrArg Prod.fst (List.mem_singleton.mp only))

/-- The file has a route for `app`; the configuration made of it cannot be applied. -/
theorem migrated_route_refused :
    let file : LoadedRoutes := { table := routeTable "app", tls := [], http3 := {} }
    (loadFromStr default (routeFile "app") "routes" = .ok file) ∧
      (file.table.matchRouteEntry "app" "/").map decision = some (decision fileRoute) ∧
      ∃ config, migrateFromRoutesYaml default (routeFile "app") id "routes" = .ok config ∧
        configToRouteTable default config =
          .error (.invalidUpstream "http://10.0.0.1:80:80" "backend-10.0.0.1-80") ∧
        ¬DecidesAs default file.table config := by
  intro file
  refine ⟨rfl, by decide, migratedConfig file, rfl, ?_⟩
  have refused : configToRouteTable default (migratedConfig file) =
      .error (.invalidUpstream "http://10.0.0.1:80:80" "backend-10.0.0.1-80") := rfl
  refine ⟨refused, ?_⟩
  rintro ⟨table, built, -⟩
  cases built

end PertiskProxy.Proxy
