import PertiskProxy.Proxy.Apply

/-! The plan for one request: the peer, the upstream URL, and the policies of the matched
route (`proxy/forward.rs`). -/

namespace PertiskProxy.Proxy

open Edge GeoIp Security Router Text

structure MiddlewareAction where
  stripPrefix : Option Text := none
  requestHeaders : List (Text × Text) := []
  responseHeaders : List (Text × Text) := []
  forwardClientIp : Bool := true
  geoip : GeoIpPolicy := {}
  security : SecurityPolicy := {}
  edge : EdgePolicy := {}
  fileRoot : Option Text := none
deriving DecidableEq, Inhabited

structure ForwardPlan where
  peerHost : Text
  peerPort : Nat
  upstreamUrl : Text
  useTls : Bool
  middleware : MiddlewareAction
deriving DecidableEq, Inhabited

inductive ForwardError where
  | noRoute (host path : Text)
  | noConsulEndpoints (service : Text)
  | invalidPort (address : Text)
deriving DecidableEq

namespace ForwardError

def status : ForwardError → Option Nat
  | .noRoute _ _ => some 404
  | .noConsulEndpoints _ => some 503
  | .invalidPort _ => none

def message : ForwardError → Text
  | .noRoute host path => "no route for host=".toList ++ host ++ " path=".toList ++ path
  | .noConsulEndpoints service => "no healthy consul endpoints for ".toList ++ service
  | .invalidPort address => "invalid port in backend address: ".toList ++ address

end ForwardError

def applyMiddleware (action : MiddlewareAction) : Middleware → MiddlewareAction
  | .stripPrefix lead => { action with stripPrefix := some lead }
  | .requestHeaders headers =>
    { action with requestHeaders := action.requestHeaders ++ headers }
  | .responseHeaders headers =>
    { action with responseHeaders := action.responseHeaders ++ headers }

def applyMiddlewares (middlewares : List Middleware) : MiddlewareAction :=
  middlewares.foldl applyMiddleware {}

/-- What is left of a path: the lead removed once, and `/` for nothing. -/
def strippedPath (path lead : Text) : Text :=
  let stripped := (stripPrefix path lead).getD path
  if stripped.isEmpty then "/".toList else stripped

def stripPathPrefix (pathAndQuery lead : Text) : Text :=
  let newPath := strippedPath (before '?' pathAndQuery) lead
  match splitOnce '?' pathAndQuery with
  | some (_, query) => newPath ++ '?' :: query
  | none => newPath

def buildUpstreamUrl (backend : Backend) (pathAndQuery : Text) : Text :=
  let scheme := if backend.useTls then "https".toList else "http".toList
  scheme ++ "://".toList ++ backend.address ++ pathAndQuery

def parseBackendPeer (address : Text) (fallbackPort : Nat) :
    Except ForwardError (Text × Nat) :=
  match rsplitOnce ':' address with
  | some (host, port) =>
    match parseUnsigned u16Max port with
    | some port => .ok (host, port)
    | none => .error (.invalidPort address)
  | none => .ok (address, fallbackPort)

inductive BackendKind where
  | file (root : Text)
  | consul (service : Text)
  | auto (address : Text)
  | plain
deriving DecidableEq

def backendKind (address : Text) : BackendKind :=
  match stripPrefix address "file:" with
  | some root => .file root
  | none =>
    match stripPrefix address "consul:" with
    | some service => .consul service
    | none =>
      match stripPrefix address "auto:" with
      | some rest => .auto rest
      | none => .plain

def routeMiddleware (table : RouteTable) (host : Text) (route : Route) : MiddlewareAction :=
  { applyMiddlewares route.middlewares with
    forwardClientIp := route.forwardClientIp
    geoip := route.geoip
    security := route.security
    edge := table.edgeFor host route.path }

def upstreamPath (middleware : MiddlewareAction) (pathAndQuery : Text) : Text :=
  match middleware.stripPrefix with
  | some lead => stripPathPrefix pathAndQuery lead
  | none => pathAndQuery

/-- The plan for a route by the kind of its backend. `probeTls` tells whether a
host and port speak TLS. -/
def planRoute (probeTls : Text → Nat → Bool) (backend : Backend)
    (middleware : MiddlewareAction) (path : Text) (consul : ConsulState) :
    Except ForwardError ForwardPlan × ConsulState :=
  match backendKind backend.address with
  | .file root =>
    (.ok
      { peerHost := "127.0.0.1"
        peerPort := 9
        upstreamUrl := "file:".toList ++ root ++ path
        useTls := false
        middleware := { middleware with fileRoot := some root } }, consul)
  | .consul service =>
    match consul.pick service with
    | (some (peerHost, peerPort), consul) =>
      let backend :=
        { backend with address := peerHost ++ ':' :: ofNat peerPort, port := peerPort }
      (.ok
        { peerHost, peerPort, upstreamUrl := buildUpstreamUrl backend path,
          useTls := backend.useTls, middleware }, consul)
    | (none, consul) => (.error (.noConsulEndpoints service), consul)
  | .auto rest =>
    match parseBackendPeer rest backend.port with
    | .ok (peerHost, peerPort) =>
      let useTls := probeTls peerHost peerPort
      let backend :=
        { address := peerHost ++ ':' :: ofNat peerPort, port := peerPort, useTls }
      (.ok
        { peerHost, peerPort, upstreamUrl := buildUpstreamUrl backend path, useTls,
          middleware }, consul)
    | .error error => (.error error, consul)
  | .plain =>
    match parseBackendPeer backend.address backend.port with
    | .ok (peerHost, peerPort) =>
      (.ok
        { peerHost, peerPort, upstreamUrl := buildUpstreamUrl backend path,
          useTls := backend.useTls, middleware }, consul)
    | .error error => (.error error, consul)

def resolveForward (probeTls : Text → Nat → Bool) (table : RouteTable)
    (host pathAndQuery : Text) (consul : ConsulState) :
    Except ForwardError ForwardPlan × ConsulState :=
  let path := before '?' pathAndQuery
  match table.matchRouteEntry host path with
  | none => (.error (.noRoute host path), consul)
  | some route =>
    let middleware := routeMiddleware table host route
    planRoute probeTls route.backend middleware (upstreamPath middleware pathAndQuery) consul

/-- The policies of a route; a file backend adds its root. -/
def plannedMiddleware (backend : Backend) (middleware : MiddlewareAction) : MiddlewareAction :=
  match backendKind backend.address with
  | .file root => { middleware with fileRoot := some root }
  | _ => middleware

theorem planRoute_middleware
    (planned : (planRoute probeTls backend middleware path consul).1 = .ok plan) :
    plan.middleware = plannedMiddleware backend middleware := by
  unfold planRoute at planned
  split at planned
  · next root kind =>
    cases planned
    simp [plannedMiddleware, kind]
  · next service kind =>
    split at planned <;> cases planned
    simp [plannedMiddleware, kind]
  · next rest kind =>
    split at planned <;> cases planned
    simp [plannedMiddleware, kind]
  · next kind =>
    split at planned <;> cases planned
    simp [plannedMiddleware, kind]

theorem plannedMiddleware_policies (backend : Backend) (middleware : MiddlewareAction) :
    (plannedMiddleware backend middleware).edge = middleware.edge ∧
      (plannedMiddleware backend middleware).geoip = middleware.geoip ∧
      (plannedMiddleware backend middleware).security = middleware.security := by
  unfold plannedMiddleware
  split <;> exact ⟨rfl, rfl, rfl⟩

theorem planRoute_policies
    (planned : (planRoute probeTls backend middleware path consul).1 = .ok plan) :
    plan.middleware.edge = middleware.edge ∧ plan.middleware.geoip = middleware.geoip ∧
      plan.middleware.security = middleware.security := by
  rw [planRoute_middleware planned]
  exact plannedMiddleware_policies backend middleware

theorem planRoute_plain (plain : backendKind backend.address = .plain)
    (planned : (planRoute probeTls backend middleware path consul).1 = .ok plan) :
    plan.upstreamUrl = buildUpstreamUrl backend path := by
  simp only [planRoute, plain] at planned
  split at planned
  · cases planned
    rfl
  · cases planned

def lacksEndpoints (backend : Backend) (consul : ConsulState) : Bool :=
  match backendKind backend.address with
  | .consul service => (consul.known service).isEmpty
  | _ => false

def validAddress (backend : Backend) : Bool :=
  match backendKind backend.address with
  | .auto rest => (parseBackendPeer rest backend.port).isOk
  | .plain => (parseBackendPeer backend.address backend.port).isOk
  | _ => true

def plannable (backend : Backend) (consul : ConsulState) : Bool :=
  validAddress backend && !lacksEndpoints backend consul

theorem planRoute_isOk (probeTls : Text → Nat → Bool) (backend : Backend)
    (middleware : MiddlewareAction) (path : Text) (consul : ConsulState) :
    (planRoute probeTls backend middleware path consul).1.isOk = plannable backend consul := by
  cases kind : backendKind backend.address with
  | file root =>
    simp [planRoute, plannable, validAddress, lacksEndpoints, kind, Except.isOk, Except.toBool]
  | consul service =>
    have picks := ConsulState.isSome_pick consul service
    simp only [planRoute, plannable, validAddress, lacksEndpoints, kind, Bool.true_and]
    rcases picked : consul.pick service with ⟨endpoint, after⟩
    rw [picked] at picks
    cases endpoint with
    | none =>
      have unknown : consul.known service = [] := by
        by_contra known
        cases picks.mpr known
      simp [unknown, Except.isOk, Except.toBool]
    | some endpoint =>
      have known := picks.mp rfl
      simp [known, Except.isOk, Except.toBool]
  | auto rest =>
    simp only [planRoute, plannable, validAddress, lacksEndpoints, kind]
    cases parseBackendPeer rest backend.port <;> simp [Except.isOk, Except.toBool]
  | plain =>
    simp only [planRoute, plannable, validAddress, lacksEndpoints, kind]
    cases parseBackendPeer backend.address backend.port <;> simp [Except.isOk, Except.toBool]

theorem resolveForward_of_match
    (matched : table.matchRouteEntry host (before '?' pathAndQuery) = some route)
    (probeTls : Text → Nat → Bool) (consul : ConsulState) :
    resolveForward probeTls table host pathAndQuery consul =
      planRoute probeTls route.backend (routeMiddleware table host route)
        (upstreamPath (routeMiddleware table host route) pathAndQuery) consul := by
  simp [resolveForward, matched]

def hasPlan (table : RouteTable) (host pathAndQuery : Text) (consul : ConsulState) : Bool :=
  (table.matchRouteEntry host (before '?' pathAndQuery)).any fun route =>
    plannable route.backend consul

theorem resolveForward_isOk (probeTls : Text → Nat → Bool) (table : RouteTable)
    (host pathAndQuery : Text) (consul : ConsulState) :
    (resolveForward probeTls table host pathAndQuery consul).1.isOk =
      hasPlan table host pathAndQuery consul := by
  unfold hasPlan
  cases matched : table.matchRouteEntry host (before '?' pathAndQuery) with
  | none =>
    simp only [resolveForward, matched]
    rfl
  | some route => rw [resolveForward_of_match matched, planRoute_isOk, Option.any_some]

theorem resolveForward_ok
    (resolved : (resolveForward probeTls table host pathAndQuery consul).1 = .ok plan) :
    ∃ route, table.matchRouteEntry host (before '?' pathAndQuery) = some route ∧
      (planRoute probeTls route.backend (routeMiddleware table host route)
        (upstreamPath (routeMiddleware table host route) pathAndQuery) consul).1 = .ok plan := by
  unfold resolveForward at resolved
  dsimp only at resolved
  split at resolved
  · cases resolved
  · next route found => exact ⟨route, found, resolved⟩

def routeAction (table : RouteTable) (host : Text) (route : Route) : MiddlewareAction :=
  plannedMiddleware route.backend (routeMiddleware table host route)

/-- The policies of the route that a table has for a request, if it has one. -/
def requestAction (table : RouteTable) (host pathAndQuery : Text) : MiddlewareAction :=
  ((table.matchRouteEntry host (before '?' pathAndQuery)).map (routeAction table host)).getD {}

theorem resolveForward_middleware
    (resolved : (resolveForward probeTls table host pathAndQuery consul).1 = .ok plan) :
    plan.middleware = requestAction table host pathAndQuery := by
  rcases resolveForward_ok resolved with ⟨route, found, planned⟩
  rw [requestAction, found]
  exact planRoute_middleware planned

@[simp] theorem routeAction_geoip (table : RouteTable) (host : Text) (route : Route) :
    (routeAction table host route).geoip = route.geoip :=
  (plannedMiddleware_policies route.backend (routeMiddleware table host route)).2.1

@[simp] theorem routeAction_security (table : RouteTable) (host : Text) (route : Route) :
    (routeAction table host route).security = route.security :=
  (plannedMiddleware_policies route.backend (routeMiddleware table host route)).2.2

end PertiskProxy.Proxy
