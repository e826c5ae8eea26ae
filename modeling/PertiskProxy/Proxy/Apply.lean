import PertiskProxy.Router

/-! Building the route table from sites and named backends (`proxy/apply.rs`). -/

namespace PertiskProxy.Proxy

open Edge GeoIp Security ProxyConfig Router Text

def looksLikeUpstreamUrl (value : Text) : Bool :=
  let lower := toAsciiLowercase value
  startsWith lower "http://" || startsWith lower "https://" ||
    startsWith lower "localhost:" || startsWith lower "127.0.0.1:" ||
    startsWith lower "[::1]:"

def pathOnlyRewrite (rewrite : Option Text) : Option Text :=
  rewrite.filter fun text => !looksLikeUpstreamUrl (trim text)

/-- The route for one path; a rewrite to `/` strips the match path. -/
def siteRoute (path : Text) (pathType : PathMatchType) (rewrite : Option Text)
    (target : Router.Backend) (forwardClientIp : Bool) (geoip : GeoIpPolicy)
    (security : SecurityPolicy) : Route where
  path := path
  pathType := pathType
  backend := target
  middlewares := match trimmedNonEmpty rewrite with
    | some rewrite =>
      if rewrite == "/".toList && path != "/".toList then
        [.stripPrefix (trimEndMatches (· == '/') path)]
      else []
    | none => []
  forwardClientIp := forwardClientIp
  geoip := geoip.normalized
  security := security.normalized

inductive ApplyError where
  | unknownBackend (host backend : Text)
  | noUpstreams (backend : Text)
  | invalidUpstream (address backend : Text)
  | invalidRouteUpstream (raw host path : Text)
  | invalidRewriteUpstream (raw host path : Text)
deriving DecidableEq

def ApplyError.message : ApplyError → Text
  | .unknownBackend host backend =>
    "site ".toList ++ host ++ " references unknown backend '".toList ++ backend ++ ['\'']
  | .noUpstreams backend => "backend '".toList ++ backend ++ "' has no upstreams".toList
  | .invalidUpstream address backend =>
    "invalid upstream '".toList ++ address ++ "' for backend '".toList ++ backend ++ ['\'']
  | .invalidRouteUpstream raw host path =>
    "invalid per-route upstream '".toList ++ raw ++ "' for site ".toList ++ host ++
      " path ".toList ++ path
  | .invalidRewriteUpstream raw host path =>
    "invalid rewrite-as-upstream '".toList ++ raw ++ "' for site ".toList ++ host ++
      " path ".toList ++ path

section

variable (platform : Platform)

def orError (found : Option α) (error : ApplyError) : Except ApplyError α :=
  match found with
  | some value => .ok value
  | none => .error error

/-- Per-route upstream, also from a URL mistakenly stored in `rewrite`. -/
def resolveRouteTarget (route : PathRewrite) (defaultTarget : Router.Backend)
    (host : Text) : Except ApplyError Router.Backend :=
  match trimmedNonEmpty route.upstream with
  | some raw =>
    orError (parseUpstream platform raw) (.invalidRouteUpstream raw host route.path)
  | none =>
    match (route.rewrite.map trim).filter looksLikeUpstreamUrl with
    | some raw =>
      orError (parseUpstream platform raw) (.invalidRewriteUpstream raw host route.path)
    | none => .ok defaultTarget

def siteHost (site : Site) : Text :=
  platform.toLowercase (trim site.host)

/-- The entries of a site; a site without any has one for `/`. -/
def siteEntries (site : Site) : List PathRewrite :=
  if site.routes.isEmpty then [{ path := "/" }] else site.routes

def entryRoute (config : Config) (site : Site) (defaultTarget : Router.Backend)
    (entry : PathRewrite) : Except ApplyError Route := do
  let target ← resolveRouteTarget platform entry defaultTarget (siteHost platform site)
  .ok (siteRoute entry.path entry.pathType (pathOnlyRewrite entry.rewrite) target
    site.forwardClientIp (config.resolveSiteGeoip site) (config.resolveSiteSecurity site))

/-- The first upstream of the site's backend; of several backends with one name
the last one counts. -/
def defaultTarget (config : Config) (site : Site) : Except ApplyError Router.Backend := do
  let backends := HashMap.ofList (config.backends.map fun backend => (backend.name, backend))
  let backend ← orError (backends.get? site.backend)
    (.unknownBackend (siteHost platform site) site.backend)
  let upstream ← orError backend.upstreams.head? (.noUpstreams site.backend)
  orError (parseUpstream platform upstream.addr)
    (.invalidUpstream upstream.addr site.backend)

def siteRoutes (config : Config) (site : Site) : Except ApplyError (List Route) := do
  let target ← defaultTarget platform config site
  (siteEntries site).mapM (entryRoute platform config site target)

def addSite (config : Config) (byHost : HashMap Text (List Route)) (site : Site) :
    Except ApplyError (HashMap Text (List Route)) :=
  let host := siteHost platform site
  if host.isEmpty then .ok byHost
  else do
    let routes ← siteRoutes platform config site
    .ok (byHost.upsert host fun existing => existing.getD [] ++ routes)

def entryPolicy (entry : PathRewrite) : EdgePolicy where
  auth := entry.auth
  rateLimitRps := entry.rateLimitRps
  x4xxLimitRps := entry.x4xxLimitRps
  cache := entry.cache

def insertSiteEdges (table : RouteTable) (site : Site) : RouteTable :=
  let host := siteHost platform site
  if host.isEmpty then table
  else
    (siteEntries site).foldl
      (fun table entry => table.insertEdge host entry.path (entryPolicy entry)) table

def configToRouteTable (config : Config) : Except ApplyError RouteTable := do
  let byHost ← config.sites.foldlM (addSite platform config) ∅
  let table := config.sites.foldl (insertSiteEdges platform) (.fromRoutes byHost)
  .ok { table with
        globals :=
          { tlsGrade := config.tlsGrade
            cacheSizeMb := config.cacheSizeMb
            cacheTtlSecs := config.cacheTtlSecs
            consul := config.consul
            jwtSecret := config.jwtSecret } }

theorem toOption_orError (found : Option α) (error : ApplyError) :
    (orError found error).toOption = found := by
  cases found <;> rfl

theorem toOption_bind (action : Except ε α) (next : α → Except ε β) :
    (action >>= next).toOption = action.toOption.bind fun value => (next value).toOption := by
  cases action <;> rfl

theorem toOption_defaultTarget (config : Config) (site : Site) :
    (defaultTarget platform config site).toOption =
      ((HashMap.ofList (config.backends.map fun backend => (backend.name, backend))).get?
        site.backend).bind fun backend =>
          backend.upstreams.head?.bind fun upstream => parseUpstream platform upstream.addr := by
  simp [defaultTarget, toOption_bind, toOption_orError]

theorem defaultTarget_unknownBackend_iff (config : Config) (site : Site) :
    defaultTarget platform config site =
        .error (.unknownBackend (siteHost platform site) site.backend) ↔
      (HashMap.ofList (config.backends.map fun backend => (backend.name, backend))).get?
        site.backend = none := by
  simp only [defaultTarget]
  cases (HashMap.ofList (config.backends.map fun backend => (backend.name, backend))).get?
    site.backend with
  | none => exact iff_of_true rfl rfl
  | some backend =>
    refine iff_of_false ?_ (Option.some_ne_none backend)
    simp only [orError, bind, Except.bind]
    cases backend.upstreams.head? with
    | none => simp
    | some upstream =>
      simp only
      split <;> simp

theorem resolveRouteTarget_ne_unknownBackend (entry : PathRewrite) (target : Router.Backend)
    (host path backend : Text) :
    resolveRouteTarget platform entry target host ≠ .error (.unknownBackend path backend) := by
  rw [resolveRouteTarget]
  split
  · unfold orError
    split <;> simp
  · split
    · unfold orError
      split <;> simp
    · simp

theorem toOption_siteRoutes_single (config : Config) (single : site.routes = [entry])
    (plain : entry.upstream = none ∧ entry.rewrite = none) :
    (siteRoutes platform config site).toOption =
      (defaultTarget platform config site).toOption.map fun target =>
        [siteRoute entry.path entry.pathType none target site.forwardClientIp
          (config.resolveSiteGeoip site) (config.resolveSiteSecurity site)] := by
  have made : ∀ target, (siteEntries site).mapM (entryRoute platform config site target) =
      .ok [siteRoute entry.path entry.pathType none target site.forwardClientIp
        (config.resolveSiteGeoip site) (config.resolveSiteSecurity site)] := by
    intro target
    simp [siteEntries, single, entryRoute, resolveRouteTarget, plain.1, plain.2, bind,
      Except.bind, pure, Except.pure, trimmedNonEmpty, pathOnlyRewrite]
  rw [siteRoutes, toOption_bind]
  simp only [made]
  cases (defaultTarget platform config site).toOption <;> rfl

end

end PertiskProxy.Proxy
