import PertiskProxy.H3.Decision
import PertiskProxy.Proxy.Decision

/-! Which requests get content of their route although its GeoIP or security policy blocks
them: the gateway and the Quinn server look for files and cached responses before they
check those policies. -/

namespace PertiskProxy.Proxy

open Edge FilterChain Http Router Security

namespace Gateway

variable (gateway : Gateway) (session : Session) (moments : Nat → Moment) (world : World)
  (later : Moment)

/-- The client gets content of the route: a file, a cached response, or whatever
the peer responds. -/
def servesContent : Bool :=
  let (outcome, state) := requestFilter gateway session moments world
  match outcome with
  | .answered answer => answer.disposition = .content
  | .forward => (upstreamPeer session later state).1.isOk

def blocks (route : Route) : Bool :=
  let clientIp := sessionClientIp session
  geoipTrips route.geoip clientIp (moments 12) ||
    securityTrips gateway.process route.security session.req clientIp (moments 14)
      (passageAt gateway session moments world 8).world

def forwardedEarly : Bool :=
  !answeredEarlier gateway session moments && lacksCertificate gateway session (moments 3) &&
    !redirectDenied gateway session (moments 3)

def routed : Bool :=
  !answeredEarlier gateway session moments && !(gateway.autoHttps && isPlainHttp session) &&
    !isDenied gateway.process (requestHost session.req) (moments 4)

def consulAtPeer : ConsulState :=
  ((requestFilter gateway session moments world).2.arrive later).passage.world.consul

def contentFound (ctx : RequestCtx) : Bool :=
  match ctx.fileRoot with
  | some root => (readableFile root session.req.uri.path (moments 10)).isSome
  | none =>
    (cacheHit session ctx (moments 11) (passageAt gateway session moments world 5).world).isSome

/-- Without a plan for the route the filter applies no policy: the request is
answered from the cache, or forwarded if there is a plan by then. -/
def unresolvedShortcut (route : Route) : Bool :=
  let ctx := earlyRequestFilter session
  routed gateway session moments &&
    !plannable route.backend (consulAtFilter session moments world) &&
    (contentFound gateway session moments world ctx ||
      !isCaptchaPath session.req.uri.path && grpcVerdict session ctx = .next &&
        plannable route.backend (consulAtPeer gateway session moments world later))

/-- Content is looked for before the blocking policies are. -/
def contentShortcut (table : RouteTable) (route : Route) : Bool :=
  let ctx := routeCtx session table route
  routed gateway session moments &&
    plannable route.backend (consulAtFilter session moments world) &&
    !edgeRejects gateway session moments world ctx.edge &&
    contentFound gateway session moments world ctx

def shortcut (table : RouteTable) (route : Route) : Bool :=
  forwardedEarly gateway session moments &&
      plannable route.backend (consulAtPeer gateway session moments world later) ||
    unresolvedShortcut gateway session moments world later route ||
    contentShortcut gateway session moments world table route

theorem servesContent_eq {table : RouteTable} (fixed : later.router.table = table)
    {route : Route} (matched : table.matchRouteEntry (requestHost session.req)
      (Text.before '?' session.req.target) = some route) :
    servesContent gateway session moments world later =
      match (requestFilter gateway session moments world).1.disposition with
      | .content => true
      | .passed => plannable route.backend (consulAtPeer gateway session moments world later)
      | _ => false := by
  rw [← fixed] at matched
  have peer := upstreamPeer_isOk matched (requestFilter gateway session moments world).2
  simp only [servesContent, consulAtPeer]
  rcases filtered : requestFilter gateway session moments world with ⟨outcome, state⟩
  rw [filtered] at peer
  cases outcome with
  | forward => exact peer
  | answered answer => cases answer <;> rfl

theorem frontDisposition_eq : frontDisposition gateway session moments =
      if forwardedEarly gateway session moments then some .passed
      else if routed gateway session moments then none
      else if answeredEarlier gateway session moments then some .other
      else if gateway.autoHttps && isPlainHttp session then
        if redirectDenied gateway session (moments 3) then some .refused else some .other
      else some .refused := by
  simp only [frontDisposition, forwardedEarly, routed, lacksCertificate]
  split_ifs <;> simp_all

theorem not_routed_of_forwardedEarly
    (early : forwardedEarly gateway session moments = true) :
    routed gateway session moments = false := by
  simp only [forwardedEarly, lacksCertificate, Bool.and_eq_true] at early
  simp [routed, early.1.2.1.1, early.1.2.1.2]

def deliversContent (disposition : Disposition) (peer : Bool) : Bool :=
  match disposition with
  | .content => true
  | .passed => peer
  | _ => false

theorem delivers_route (table : RouteTable)
    (blocked : blocks gateway session moments world route = true) (peer : Bool) :
    deliversContent (routeDisposition gateway session moments world
        (routeCtx session table route)) peer =
      (!edgeRejects gateway session moments world (routeCtx session table route).edge &&
        contentFound gateway session moments world (routeCtx session table route)) := by
  have geo : (routeCtx session table route).geoip = route.geoip := routeAction_geoip ..
  have waf : (routeCtx session table route).security = route.security :=
    routeAction_security ..
  simp only [blocks, Bool.or_eq_true] at blocked
  simp only [routeDisposition, contentFound, geo, waf]
  cases (routeCtx session table route).fileRoot with
  | some root | none =>
    dsimp only
    split_ifs <;> simp_all [deliversContent]

theorem delivers_early (peer : Bool) :
    deliversContent (routeDisposition gateway session moments world
        (earlyRequestFilter session)) peer =
      (contentFound gateway session moments world (earlyRequestFilter session) ||
        !isCaptchaPath session.req.uri.path &&
          grpcVerdict session (earlyRequestFilter session) = .next && peer) := by
  have rootless : (earlyRequestFilter session).fileRoot = none := rfl
  simp only [routeDisposition_early, contentFound, rootless]
  split_ifs <;> simp_all [deliversContent]

/-- Under a blocking policy the client gets content exactly by a shortcut. -/
theorem servesContent_eq_shortcut {table : RouteTable}
    (fixed : ∀ index, (moments index).router.table = table)
    (unchanged : later.router.table = table) {route : Route}
    (matched : table.matchRouteEntry (requestHost session.req)
      (Text.before '?' session.req.target) = some route)
    (blocked : blocks gateway session moments world route = true) :
    servesContent gateway session moments world later =
      shortcut gateway session moments world later table route := by
  have atFilter := matched
  rw [← fixed 5] at atFilter
  have delivered : servesContent gateway session moments world later =
      deliversContent (requestFilter gateway session moments world).1.disposition
        (plannable route.backend (consulAtPeer gateway session moments world later)) :=
    servesContent_eq gateway session moments world later unchanged matched
  rw [delivered, requestFilter_disposition, frontDisposition_eq, resolvedState_ctx session moments atFilter,
    fixed 5]
  simp only [shortcut, unresolvedShortcut, contentShortcut]
  cases early : forwardedEarly gateway session moments with
  | true =>
    have unrouted := not_routed_of_forwardedEarly gateway session moments early
    simp [unrouted, deliversContent]
  | false =>
    cases reached : routed gateway session moments with
    | false =>
      simp only [Bool.false_eq_true, if_false]
      split_ifs <;> simp [deliversContent]
    | true =>
      simp only [Bool.false_eq_true, if_false, if_true, Option.getD_none]
      cases plannable route.backend (consulAtFilter session moments world) with
      | true => simp [delivers_route gateway session moments world table blocked]
      | false => simp [delivers_early]

end Gateway

end PertiskProxy.Proxy

namespace PertiskProxy.H3.Quinn

open Http Proxy Router

variable (process : Process) (incoming : Incoming) (moments : Nat → Moment) (world : World)
  (table : RouteTable) (route : Route)

def servesContent : Bool :=
  match (handleRequest process incoming moments world).1 with
  | .forwarded _ => true
  | .answered answer => answer.disposition = .content

def blocks : Bool :=
  geoipTrips route.geoip (clientIp incoming) (moments 8) ||
    securityTrips process route.security incoming.req (clientIp incoming) (moments 10)
      (passageAt process incoming moments world
        (routeAction table (requestHost incoming.req) route) 6).world

def routed : Bool :=
  let req := incoming.req
  !isProbe req && !Grpc.isH3IncompatibleRequest req.headers req.method req.uri.path &&
    !isDenied process (requestHost req) (moments 2)

/-- Files are looked for before the blocking policies are. -/
def shortcut : Bool :=
  let action := routeAction table (requestHost incoming.req) route
  routed process incoming moments &&
    plannable route.backend (consulAtRoute process incoming moments world) &&
    !edgeRejects process incoming moments world action &&
    action.fileRoot.any fun root => (readableFile root incoming.req.uri.path (moments 7)).isSome

theorem servesContent_eq : servesContent process incoming moments world =
      match (handleRequest process incoming moments world).1.disposition with
      | .content | .passed => true
      | _ => false := by
  simp only [servesContent]
  cases (handleRequest process incoming moments world).1 with
  | forwarded plan => rfl
  | answered answer => cases answer <;> rfl

theorem servesContent_eq_shortcut (loaded : (moments 3).router.table = table)
    (matched : table.matchRouteEntry (requestHost incoming.req)
      (Text.before '?' incoming.req.target) = some route)
    (blocked : blocks process incoming moments world table route = true) :
    servesContent process incoming moments world =
      shortcut process incoming moments world table route := by
  rw [servesContent_eq, handleRequest_disposition, loaded, matched]
  simp only [blocks, Bool.or_eq_true] at blocked
  simp only [actionDisposition, routeAction_geoip, routeAction_security, shortcut, routed,
    frontDisposition]
  cases (routeAction table (requestHost incoming.req) route).fileRoot with
  | some root | none =>
    dsimp only
    split_ifs <;> simp_all

end PertiskProxy.H3.Quinn

namespace PertiskProxy.Proxy

open GeoIp H3 Http Net Router

/-- A request that a policy of its route blocks gets no content of the route
exactly when no shortcut leads around the policy, on either plane. -/
theorem blocked_content_iff (gateway : Gateway) (session : Session)
    (incoming : Quinn.Incoming) (moments : Nat → Moment) (world : World) (later : Moment)
    (table : RouteTable) (route : Route) (fixed : ∀ index, (moments index).router.table = table)
    (unchanged : later.router.table = table) :
    (table.matchRouteEntry (requestHost session.req) (Text.before '?' session.req.target) =
        some route →
      gateway.blocks session moments world route = true →
      (gateway.servesContent session moments world later = false ↔
        gateway.shortcut session moments world later table route = false)) ∧
    (table.matchRouteEntry (requestHost incoming.req) (Text.before '?' incoming.req.target) =
        some route →
      Quinn.blocks gateway.process incoming moments world table route = true →
      (Quinn.servesContent gateway.process incoming moments world = false ↔
        Quinn.shortcut gateway.process incoming moments world table route = false)) := by
  constructor
  · intro matched blocked
    rw [gateway.servesContent_eq_shortcut session moments world later fixed unchanged matched
      blocked]
  · intro matched blocked
    rw [Quinn.servesContent_eq_shortcut gateway.process incoming moments world table route
      (fixed 3) matched blocked]

/-! A route closed to one country, before a server and before a directory. -/

def closedRoute (address : Text) : Route where
  path := "/"
  pathType := .lead
  backend := { address, port := 80, useTls := false }
  geoip := { enabled := true, denyCountries := ["XX"] }

def closedTable (address : Text) : RouteTable :=
  .fromRoutes (HashMap.empty.insert "a.example" [closedRoute address])

def closedMoment (address : Text) : Moment :=
  { Moment.ofTable (closedTable address) with
    geo := { country := some fun _ => some "XX", asn := none }
    readFile := fun _ => some (Text.asBytes "secret") }

def visit : RequestHeader where
  method := "GET"
  uri := { pathAndQuery := "/a.txt" }
  headers := [("host", Text.asBytes "a.example")]

def visitor : IpAddr :=
  .v4 ⟨203, 0, 113, 9⟩

def openGateway : Gateway where
  process := default
  autoHttps := false
  httpsPort := 443

def gatewayVisit : Session where
  req := visit
  clientAddr := some (.inet visitor)

theorem blocked_visitor_gets_nothing :
    openGateway.servesContent gatewayVisit (fun _ => closedMoment "10.0.0.1:80") {}
        (closedMoment "10.0.0.1:80") = false ∧
      Quinn.servesContent default { req := visit, remote := visitor }
        (fun _ => closedMoment "10.0.0.1:80") {} = false := by
  have exactly := blocked_content_iff openGateway gatewayVisit
    { req := visit, remote := visitor } (fun _ => closedMoment "10.0.0.1:80") {}
    (closedMoment "10.0.0.1:80") (closedTable "10.0.0.1:80") (closedRoute "10.0.0.1:80")
    (fun _ => rfl) rfl
  constructor
  · exact (exactly.1 (by decide) (by decide)).mpr (by decide)
  · exact (exactly.2 (by decide) (by decide)).mpr (by decide)

/-- Before a directory the blocked visitor gets the file, on both planes. -/
theorem blocked_visitor_gets_file :
    openGateway.blocks gatewayVisit (fun _ => closedMoment "file:/srv") {}
        (closedRoute "file:/srv") = true ∧
      (openGateway.requestFilter gatewayVisit (fun _ => closedMoment "file:/srv") {}).1 =
        .answered (.file "text/plain; charset=utf-8" (Text.asBytes "secret")) ∧
      Quinn.servesContent default { req := visit, remote := visitor }
        (fun _ => closedMoment "file:/srv") {} = true := by
  decide

end PertiskProxy.Proxy

/-! The same request on the gateway and on both HTTP/3 servers, at one moment and with no
other request in between: when do the planes agree on rejecting it? -/

namespace PertiskProxy.Proxy

open Edge FilterChain Gateway H3 Http Router Security Text Option Quiche

/-- Two request headers that say the same; where the host stands may differ. -/
structure SameRequest (left right : RequestHeader) : Prop where
  method : left.method = right.method
  host : requestHost left = requestHost right
  path : left.uri.path = right.uri.path
  query : left.uri.query = right.uri.query
  target : left.target = right.target
  headers : left.headers.filter (fun header => header.1 != "host".toList) =
    right.headers.filter fun header => header.1 != "host".toList

theorem lookup_filter_ne (different : name ≠ other) (headers : HeaderMap) :
    (headers.filter fun header => header.1 != other).lookup name = headers.lookup name := by
  induction headers with
  | nil => rfl
  | cons header rest induction =>
    rcases header with ⟨key, value⟩
    by_cases dropped : key = other
    · have kept : (name == key) = false := by
        rw [dropped]
        exact beq_false_of_ne different
      rw [List.filter_cons_of_neg (by simp [dropped]), induction, List.lookup_cons, kept]
    · rw [List.filter_cons_of_pos (by simp [dropped]), List.lookup_cons, List.lookup_cons,
        induction]

theorem any_metadata (headers : HeaderMap) :
    (headers.any fun header => startsWith header.1 "grpc-metadata-") =
      (headers.filter fun header => header.1 != "host".toList).any
        fun header => startsWith header.1 "grpc-metadata-" := by
  rw [List.any_filter]
  congr 1
  funext header
  by_cases host : header.1 = "host".toList
  · rw [host]
    decide
  · have kept : (header.1 != "host".toList) = true := bne_iff_ne.mpr host
    rw [kept, Bool.true_and]

namespace SameRequest

variable {left right : RequestHeader} (same : SameRequest left right)
include same

theorem getStr (different : name ≠ "host".toList) :
    left.headers.getStr name = right.headers.getStr name := by
  have lookups := congrArg (List.lookup name) same.headers
  rw [lookup_filter_ne different, lookup_filter_ne different] at lookups
  simp [HeaderMap.getStr, HeaderMap.get, lookups]

theorem isProbe : Proxy.isProbe left = Proxy.isProbe right := by
  simp [Proxy.isProbe, same.method, same.path]

theorem clientIp (socket : Option Text) :
    resolveClientIp socket (left.headers.getStr "x-forwarded-for")
        (left.headers.getStr "x-real-ip") =
      resolveClientIp socket (right.headers.getStr "x-forwarded-for")
        (right.headers.getStr "x-real-ip") := by
  rw [same.getStr (by decide), same.getStr (by decide)]

theorem securityView (clientIp : Option Text) :
    Proxy.securityView left clientIp = Proxy.securityView right clientIp := by
  simp only [Proxy.securityView, same.method, same.path, same.query,
    same.getStr (by decide : "user-agent".toList ≠ "host".toList),
    same.getStr (by decide : "accept".toList ≠ "host".toList),
    same.getStr (by decide : "accept-language".toList ≠ "host".toList),
    same.getStr (by decide : "cookie".toList ≠ "host".toList)]

theorem authOk (process : Process) (moment : Moment) (host : Text) (auth : RouteAuth) :
    Proxy.authOk process moment host left auth = Proxy.authOk process moment host right auth := by
  simp only [Proxy.authOk, authHeaderOk, same.path, same.query,
    same.getStr (by decide : "authorization".toList ≠ "host".toList),
    same.getStr (by decide : "x-api-key".toList ≠ "host".toList)]

theorem isH3Incompatible : Grpc.isH3IncompatibleRequest left.headers left.method left.uri.path =
      Grpc.isH3IncompatibleRequest right.headers right.method right.uri.path := by
  rw [same.method, same.path]
  apply Grpc.isH3IncompatibleRequest_congr
  · exact same.getStr (by decide)
  · exact same.getStr (by decide)
  · exact same.getStr (by decide)
  · rw [any_metadata, any_metadata right.headers, same.headers]

theorem quicheClientIp : Quiche.clientIp left = Quiche.clientIp right := by
  have found := clientIpFromHttpHeaders_congr fun _ different => same.getStr different
  rw [Quiche.clientIp, Quiche.clientIp, same.clientIp, found]

end SameRequest

/-! ## Arrivals -/

structure Arrival where
  gateway : Gateway
  session : Session
  incoming : Quinn.Incoming
  http : HttpParsers
  fields : Fields
  moment : Moment
  world : World

namespace Arrival

def disposition (arrival : Arrival) : Plane → Disposition
  | .pingora =>
    (arrival.gateway.requestFilter arrival.session (fun _ => arrival.moment)
      arrival.world).1.disposition
  | .quinn =>
    (Quinn.handleRequest arrival.gateway.process arrival.incoming (fun _ => arrival.moment)
      arrival.world).1.disposition
  | .quiche =>
    (Quiche.handleRequest arrival.gateway.process arrival.http arrival.fields
      (fun _ => arrival.moment) arrival.world).1.disposition

/-- When a policy rejects the request on one plane, every plane turns it away. -/
def Agrees (arrival : Arrival) : Prop :=
  ∀ one other, arrival.disposition one = .rejected →
    arrival.disposition other = .rejected ∨ arrival.disposition other = .refused

/-- The planes get the same request from the same address, and no other request
runs in between. -/
structure Same (arrival : Arrival) (req : RequestHeader) : Prop where
  quinn : SameRequest arrival.session.req arrival.incoming.req
  quiche : SameRequest arrival.session.req req
  converted : h3ToRequest arrival.http arrival.fields = .ok req
  methodPath : pseudoMethodPath arrival.fields =
    some (arrival.session.req.method.asBytes, arrival.session.req.uri.path.asBytes)
  authority : ∀ host, (pseudoAuthority arrival.fields).bind Bytes.fromUtf8 = some host →
    host = requestHost arrival.session.req
  address : arrival.session.clientAddr.or arrival.session.peerAddr =
    some (.inet arrival.incoming.remote)
  quiet : arrival.moment.interference = id

variable (arrival : Arrival)

def table : RouteTable :=
  arrival.moment.router.table

def host : Text :=
  requestHost arrival.session.req

def route : Option Route :=
  (arrival.table.matchRouteEntry arrival.host
    (before '?' arrival.session.req.target)).filter fun route =>
      plannable route.backend arrival.world.consul

def edgeTrips (client : Text) (route : Route) : Bool :=
  let edge := (routeAction arrival.table arrival.host route).edge
  x4xxTrips client arrival.host edge arrival.moment arrival.world ||
    rateTrips client arrival.host edge arrival.moment arrival.world ||
    authTrips arrival.gateway.process arrival.host arrival.session.req edge arrival.moment

/-- The GeoIP or security policy of a route rejects the request from an address,
where the security policy does not guard the captcha pages if there are any. -/
def blockTrips (pages : Bool) (clientIp : Option Text) (route : Route) : Bool :=
  geoipTrips route.geoip clientIp arrival.moment ||
    !(pages && isCaptchaPath arrival.session.req.uri.path) &&
      securityTrips arrival.gateway.process route.security arrival.session.req clientIp
        arrival.moment arrival.world

def skipsPolicies : Bool :=
  answeredEarlier arrival.gateway arrival.session (fun _ => arrival.moment) ||
    (arrival.gateway.autoHttps && isPlainHttp arrival.session)

/-- The gateway rejects the request if it gets to the policies of the route and
no content is found before. -/
def gatewayRejects (route : Route) : Bool :=
  let session := arrival.session
  let ctx := routeCtx session arrival.table route
  !arrival.skipsPolicies &&
    (arrival.edgeTrips (edgeClient session) route ||
      ctx.fileRoot.isNone && (cacheHit session ctx arrival.moment arrival.world).isNone &&
        arrival.blockTrips true (sessionClientIp session) route)

def quinnRejects (route : Route) : Bool :=
  arrival.edgeTrips arrival.incoming.remote.toText route ||
    (routeAction arrival.table arrival.host route).fileRoot.isNone &&
      arrival.blockTrips true (sessionClientIp arrival.session) route

def quicheRejects (route : Route) : Bool :=
  arrival.blockTrips false (Quiche.clientIp arrival.session.req) route

/-! ## The gateway -/

section

variable {arrival : Arrival}

theorem route_eq_some {route : Route} (found : arrival.route = some route) :
    arrival.table.matchRouteEntry arrival.host
        (before '?' arrival.session.req.target) = some route ∧
      plannable route.backend arrival.world.consul = true :=
  filter_eq_some_iff.mp found

theorem route_eq_none (missing : arrival.route = none) {route : Route}
    (matched : arrival.table.matchRouteEntry arrival.host
      (before '?' arrival.session.req.target) = some route) :
    plannable route.backend arrival.world.consul = false := by
  have unplannable := filter_eq_none_iff.mp missing route matched
  simpa using unplannable

theorem edgeRejects_gateway (quiet : arrival.moment.interference = id) (route : Route) :
    edgeRejects arrival.gateway arrival.session (fun _ => arrival.moment) arrival.world
        (routeCtx arrival.session arrival.table route).edge =
      arrival.edgeTrips (edgeClient arrival.session) route := by
  have windows := passageAt_windows arrival.gateway arrival.session arrival.world quiet
  simp only [edgeRejects, edgeTrips, x4xxTrips, rateTrips, windows.1, windows.2]
  rfl

theorem routeDisposition_gateway (quiet : arrival.moment.interference = id)
    (route : Route) :
    let session := arrival.session
    let ctx := routeCtx session arrival.table route
    let disposition := Gateway.routeDisposition arrival.gateway session
      (fun _ => arrival.moment) arrival.world ctx
    (disposition = .rejected ↔
      (arrival.edgeTrips (edgeClient session) route ||
        ctx.fileRoot.isNone && (cacheHit session ctx arrival.moment arrival.world).isNone &&
          arrival.blockTrips true (sessionClientIp session) route) = true) ∧
      (grpcVerdict session ctx = .next → disposition ≠ .refused) := by
  have hit : cacheHit arrival.session (routeCtx arrival.session arrival.table route)
      arrival.moment (passageAt arrival.gateway arrival.session (fun _ => arrival.moment)
        arrival.world 5).world =
      cacheHit arrival.session (routeCtx arrival.session arrival.table route) arrival.moment
        arrival.world := by
    simp [cacheHit, passageAt_cache arrival.gateway arrival.session arrival.world quiet]
  have trips : ∀ policy, securityTrips arrival.gateway.process policy arrival.session.req
      (sessionClientIp arrival.session) arrival.moment (passageAt arrival.gateway arrival.session
        (fun _ => arrival.moment) arrival.world 8).world =
      securityTrips arrival.gateway.process policy arrival.session.req
        (sessionClientIp arrival.session) arrival.moment arrival.world := by
    intro policy
    simp [securityTrips, passageAt_rates arrival.gateway arrival.session arrival.world quiet]
  have geo : (routeCtx arrival.session arrival.table route).geoip = route.geoip :=
    routeAction_geoip ..
  have waf : (routeCtx arrival.session arrival.table route).security = route.security :=
    routeAction_security ..
  simp only [Gateway.routeDisposition, edgeRejects_gateway quiet, geo, waf, hit, trips, blockTrips]
  cases (routeCtx arrival.session arrival.table route).fileRoot with
  | some root =>
    dsimp only
    split_ifs <;> simp_all
  | none =>
    cases cacheHit arrival.session (routeCtx arrival.session arrival.table route)
        arrival.moment arrival.world with
    | some response | none => split_ifs <;> simp_all

theorem grpcVerdict_of_compatible
    (compatible : Grpc.isH3IncompatibleRequest arrival.session.req.headers
      arrival.session.req.method arrival.session.req.uri.path = false) (route : Route) :
    grpcVerdict arrival.session (routeCtx arrival.session arrival.table route) = .next := by
  have plain : (routeCtx arrival.session arrival.table route).isGrpc = false := by
    cases isGrpc : (routeCtx arrival.session arrival.table route).isGrpc with
    | false => rfl
    | true =>
      rw [Grpc.isH3IncompatibleRequest_of_isGrpc isGrpc] at compatible
      cases compatible
  simp [grpcVerdict, plain]

theorem gateway_unrouted (quiet : arrival.moment.interference = id)
    (missing : arrival.route = none) : arrival.disposition .pingora ≠ .rejected := by
  have bare : (resolvedState arrival.session (fun _ => arrival.moment) arrival.world).ctx =
      earlyRequestFilter arrival.session := by
    cases matched : arrival.table.matchRouteEntry arrival.host
        (before '?' arrival.session.req.target) with
    | none =>
      exact resolvedState_ctx_of_no_match arrival.session (fun _ => arrival.moment) matched
        arrival.world
    | some route =>
      rw [resolvedState_ctx arrival.session (fun _ => arrival.moment) matched arrival.world,
        consulAtFilter_of_quiet arrival.session arrival.world quiet,
        route_eq_none missing matched]
      rfl
  rw [disposition, requestFilter_disposition, bare, routeDisposition_early,
    Gateway.frontDisposition]
  split_ifs <;> simp

theorem known_of_route {route : Route} (found : arrival.route = some route) :
    redirectDenied arrival.gateway arrival.session arrival.moment = false ∧
      isDenied arrival.gateway.process (requestHost arrival.session.req) arrival.moment =
        false := by
  have known : arrival.moment.router.table.hasHost (requestHost arrival.session.req) = true :=
    RouteTable.hasHost_of_match (route_eq_some found).1
  have named : requestHost arrival.session.req ≠ [] := by
    intro unnamed
    rw [unnamed] at known
    cases known
  simp [redirectDenied, isDenied, redirectHost, named, known]

theorem gateway_front {route : Route} (found : arrival.route = some route) :
    (arrival.skipsPolicies = true ∧
      ∃ answer, Gateway.frontDisposition arrival.gateway arrival.session
        (fun _ => arrival.moment) = some answer ∧ answer ≠ .rejected ∧ answer ≠ .refused) ∨
    (arrival.skipsPolicies = false ∧
      Gateway.frontDisposition arrival.gateway arrival.session (fun _ => arrival.moment) =
        none) := by
  have known := known_of_route found
  simp only [Gateway.frontDisposition, known.1, known.2, skipsPolicies]
  split_ifs <;> simp_all

theorem gateway_routed (quiet : arrival.moment.interference = id) {route : Route}
    (found : arrival.route = some route) :
    (arrival.disposition .pingora = .rejected ↔ arrival.gatewayRejects route = true) ∧
    (Grpc.isH3IncompatibleRequest arrival.session.req.headers arrival.session.req.method
        arrival.session.req.uri.path = false →
      arrival.disposition .pingora ≠ .refused) := by
  have policies := routeDisposition_gateway quiet route
  have ctx := resolvedState_ctx arrival.session (fun _ => arrival.moment)
    (route_eq_some found).1 arrival.world
  rw [consulAtFilter_of_quiet arrival.session arrival.world quiet, (route_eq_some found).2,
    if_pos rfl] at ctx
  rw [disposition, requestFilter_disposition, ctx]
  rcases gateway_front found with ⟨skips, answer, front, kept, unrefused⟩ | ⟨reaches, front⟩
  · rw [front, getD_some]
    simp [gatewayRejects, skips, kept, unrefused]
  rw [front, getD_none]
  constructor
  · refine policies.1.trans ?_
    rw [gatewayRejects, reaches, Bool.not_false, Bool.true_and]
  · intro compatible
    exact policies.2 (grpcVerdict_of_compatible compatible route)

/-! ## The HTTP/3 servers -/

def incompatible (arrival : Arrival) : Bool :=
  let req := arrival.session.req
  Grpc.isH3IncompatibleRequest req.headers req.method req.uri.path

structure Serves (arrival : Arrival) (disposition : Disposition)
    (rejects : Route → Bool) : Prop where
  probe : Proxy.isProbe arrival.session.req = true → disposition = .other
  incompatible : Proxy.isProbe arrival.session.req = false → arrival.incompatible = true →
    disposition = .refused
  unrouted : arrival.route = none → disposition ≠ .rejected
  routed : ∀ route, Proxy.isProbe arrival.session.req = false → arrival.incompatible = false →
    arrival.route = some route →
    (disposition = .rejected ↔ rejects route = true) ∧ disposition ≠ .refused

theorem serves_of_front {front : Option Disposition} {action : Route → Disposition}
    {rejects : Route → Bool}
    (probe : Proxy.isProbe arrival.session.req = true → front = some .other)
    (turned : Proxy.isProbe arrival.session.req = false → arrival.incompatible = true →
      front = some .refused)
    (kept : front ≠ some .rejected)
    (reached : ∀ route, Proxy.isProbe arrival.session.req = false →
      arrival.incompatible = false → arrival.route = some route → front = none)
    (acts : ∀ route, (action route = .rejected ↔ rejects route = true) ∧
      action route ≠ .refused) :
    Serves arrival (front.getD (match arrival.table.matchRouteEntry arrival.host
            (before '?' arrival.session.req.target) with
        | some route =>
          if plannable route.backend arrival.world.consul then action route else .refused
        | none => .refused)) rejects := by
  constructor
  · intro isProbe
    rw [probe isProbe, getD_some]
  · intro noProbe incompatible
    rw [turned noProbe incompatible, getD_some]
  · intro missing
    cases front with
    | some answer =>
      intro rejected
      exact kept (congrArg some rejected)
    | none =>
      cases matched : arrival.table.matchRouteEntry arrival.host
          (before '?' arrival.session.req.target) with
      | none => simp
      | some route => simp [route_eq_none missing matched]
  · intro route noProbe compatible found
    rw [reached route noProbe compatible found, getD_none, (route_eq_some found).1]
    simpa [(route_eq_some found).2] using acts route

theorem sessionClientIp_eq (same : arrival.Same req) :
    Quinn.clientIp arrival.incoming = sessionClientIp arrival.session := by
  rw [Quinn.clientIp, sessionClientIp, same.address, same.quinn.clientIp]
  rfl

theorem quinn_action (same : arrival.Same req) (route : Route) :
    let disposition := Quinn.actionDisposition arrival.gateway.process arrival.incoming
      (fun _ => arrival.moment) arrival.world (routeAction arrival.table arrival.host route)
    (disposition = .rejected ↔ arrival.quinnRejects route = true) ∧ disposition ≠ .refused := by
  have windows := Quinn.passageAt_windows arrival.gateway.process arrival.incoming arrival.world
    same.quiet (routeAction arrival.table arrival.host route)
  have rates := Quinn.passageAt_rates arrival.gateway.process arrival.incoming arrival.world
    same.quiet (routeAction arrival.table arrival.host route)
  have edge : Quinn.edgeRejects arrival.gateway.process arrival.incoming
      (fun _ => arrival.moment) arrival.world (routeAction arrival.table arrival.host route) =
      arrival.edgeTrips arrival.incoming.remote.toText route := by
    have sameHost : requestHost arrival.incoming.req = arrival.host := same.quinn.host.symm
    simp [Quinn.edgeRejects, edgeTrips, x4xxTrips, rateTrips, authTrips, windows.1, windows.2,
      sameHost, ← same.quinn.authOk]
  have trips : ∀ policy, securityTrips arrival.gateway.process policy arrival.incoming.req
      (sessionClientIp arrival.session) arrival.moment
      (Quinn.passageAt arrival.gateway.process arrival.incoming (fun _ => arrival.moment)
        arrival.world (routeAction arrival.table arrival.host route) 6).world =
      securityTrips arrival.gateway.process policy arrival.session.req
        (sessionClientIp arrival.session) arrival.moment arrival.world := by
    intro policy
    simp [securityTrips, rates, same.quinn.securityView]
  simp only [Quinn.actionDisposition, edge, sessionClientIp_eq same, trips, routeAction_geoip,
    routeAction_security, quinnRejects, blockTrips, ← same.quinn.path]
  cases (routeAction arrival.table arrival.host route).fileRoot with
  | some root | none =>
    dsimp only
    split_ifs <;> simp_all

theorem quinn_serves {req : RequestHeader} (same : arrival.Same req) :
    Serves arrival (arrival.disposition .quinn) arrival.quinnRejects := by
  rw [disposition, Quinn.handleRequest_disposition,
    Quinn.consulAtRoute_of_quiet arrival.gateway.process arrival.incoming arrival.world
      same.quiet, ← same.quinn.host, ← same.quinn.target]
  apply serves_of_front _ _ _ _ (quinn_action same)
  · intro probe
    simp [Quinn.frontDisposition, ← same.quinn.isProbe, probe]
  · intro probe turned
    have unproxied := same.quinn.isH3Incompatible.symm.trans turned
    simp [Quinn.frontDisposition, ← same.quinn.isProbe, probe, unproxied]
  · simp only [Quinn.frontDisposition]
    split_ifs <;> simp
  · intro route probe compatible found
    have proxied := same.quinn.isH3Incompatible.symm.trans compatible
    have known := (known_of_route found).2
    rw [same.quinn.host] at known
    simp [Quinn.frontDisposition, ← same.quinn.isProbe, probe, proxied, known]

theorem matchesRequest_eq (same : arrival.Same req) :
    matchesRequest arrival.fields = Proxy.isProbe arrival.session.req := by
  have sameMethod : ∀ name : Text, (arrival.session.req.method.asBytes == name.asBytes) =
        (arrival.session.req.method == name) := by
    intro name
    rw [Bool.eq_iff_iff, beq_iff_eq, beq_iff_eq]
    exact asBytes_injective.eq_iff
  simp only [matchesRequest, same.methodPath, isHealthPathBytes_asBytes, sameMethod]
  rw [Proxy.isProbe, Bool.and_comm]

theorem quiche_action (same : arrival.Same req) (route : Route) :
    let disposition := actionDisposition arrival.gateway.process arrival.fields req
      (fun _ => arrival.moment) arrival.world (routeAction arrival.table arrival.host route)
    (disposition = .rejected ↔ arrival.quicheRejects route = true) ∧
      disposition ≠ .refused := by
  have rates := passageAtSecurity_rates arrival.gateway.process arrival.fields req
    arrival.world same.quiet (routeAction arrival.table arrival.host route)
  have trips : ∀ policy, securityTrips arrival.gateway.process policy req
      (clientIp arrival.session.req) arrival.moment
      (passageAtSecurity arrival.gateway.process arrival.fields req
        (fun _ => arrival.moment) arrival.world
        (routeAction arrival.table arrival.host route)).world =
      securityTrips arrival.gateway.process policy arrival.session.req
        (clientIp arrival.session.req) arrival.moment arrival.world := by
    intro policy
    simp [securityTrips, rates, same.quiche.securityView]
  simp only [Quiche.actionDisposition, ← same.quiche.quicheClientIp, trips, routeAction_geoip,
    routeAction_security, quicheRejects, blockTrips]
  split_ifs <;> simp_all

theorem quiche_serves (same : arrival.Same req) :
    Serves arrival (arrival.disposition .quiche) arrival.quicheRejects := by
  rw [disposition, handleRequest_disposition _ _ _ _ _ same.converted,
    consulAtRoute_of_quiet arrival.gateway.process arrival.fields req arrival.world
      same.quiet, ← same.quiche.host, ← same.quiche.target]
  apply serves_of_front _ _ _ _ (quiche_action same)
  · intro probe
    simp [Quiche.frontDisposition, matchesRequest_eq same, probe]
  · intro probe turned
    have unproxied := same.quiche.isH3Incompatible.symm.trans turned
    simp [Quiche.frontDisposition, matchesRequest_eq same, probe, unproxied]
  · simp only [Quiche.frontDisposition]
    split_ifs <;> simp
  intro route probe compatible found
  have proxied := same.quiche.isH3Incompatible.symm.trans compatible
  have known : authorityDenied arrival.gateway.process arrival.fields arrival.moment =
      false := by
    rw [authorityDenied]
    split
    · next host named =>
      rw [same.authority host named]
      exact (known_of_route found).2
    · rfl
  simp [Quiche.frontDisposition, matchesRequest_eq same, probe, proxied, known]

/-! ## Agreement -/

theorem not_rejected_of_probe (probe : Proxy.isProbe arrival.session.req = true)
    (quinn : Serves arrival (arrival.disposition .quinn) arrival.quinnRejects)
    (quiche : Serves arrival (arrival.disposition .quiche) arrival.quicheRejects)
    (plane : Plane) : arrival.disposition plane ≠ .rejected := by
  cases plane with
  | pingora =>
    rw [disposition, requestFilter_disposition, Gateway.frontDisposition]
    simp [answeredEarlier, probe]
  | quinn => simp [quinn.probe probe]
  | quiche => simp [quiche.probe probe]

theorem not_rejected_of_unrouted (quiet : arrival.moment.interference = id)
    (missing : arrival.route = none)
    (quinn : Serves arrival (arrival.disposition .quinn) arrival.quinnRejects)
    (quiche : Serves arrival (arrival.disposition .quiche) arrival.quicheRejects)
    (plane : Plane) : arrival.disposition plane ≠ .rejected := by
  cases plane with
  | pingora => exact gateway_unrouted quiet missing
  | quinn => exact quinn.unrouted missing
  | quiche => exact quiche.unrouted missing

theorem agrees_of_incompatible (probe : Proxy.isProbe arrival.session.req = false)
    (incompatible : arrival.incompatible = true)
    (quinn : Serves arrival (arrival.disposition .quinn) arrival.quinnRejects)
    (quiche : Serves arrival (arrival.disposition .quiche) arrival.quicheRejects) :
    arrival.Agrees := by
  intro one other rejected
  have first := quinn.incompatible probe incompatible
  have second := quiche.incompatible probe incompatible
  cases other with
  | pingora =>
    cases one with
    | pingora => exact .inl rejected
    | quinn => simp [first] at rejected
    | quiche => simp [second] at rejected
  | quinn => exact .inr first
  | quiche => exact .inr second

theorem agrees_of_checks {gateway quinn quiche : Bool}
    (first : (arrival.disposition .pingora = .rejected ↔ gateway = true) ∧
      arrival.disposition .pingora ≠ .refused)
    (second : (arrival.disposition .quinn = .rejected ↔ quinn = true) ∧
      arrival.disposition .quinn ≠ .refused)
    (third : (arrival.disposition .quiche = .rejected ↔ quiche = true) ∧
      arrival.disposition .quiche ≠ .refused) :
    arrival.Agrees ↔ gateway = quinn ∧ quinn = quiche := by
  constructor
  · intro agrees
    have together : ∀ one other, arrival.disposition one = .rejected →
        arrival.disposition other = .rejected := by
      intro one other rejected
      apply (agrees one other rejected).resolve_right
      cases other with
      | pingora => exact first.2
      | quinn => exact second.2
      | quiche => exact third.2
    simp only [Bool.eq_iff_iff, ← first.1, ← second.1, ← third.1]
    exact ⟨⟨together .pingora .quinn, together .quinn .pingora⟩,
      ⟨together .quinn .quiche, together .quiche .quinn⟩⟩
  · intro ⟨firstEqual, secondEqual⟩ one other rejected
    subst firstEqual secondEqual
    left
    cases one <;> cases other <;> simp_all

/-- The planes agree on a request exactly when it is a probe, HTTP/3 cannot proxy
it, it has no usable route, or the checks of the three planes reject it alike. -/
theorem agrees_iff {req : RequestHeader} (same : arrival.Same req) : arrival.Agrees ↔
      Proxy.isProbe arrival.session.req = true ∨ arrival.incompatible = true ∨
        ∀ route, arrival.route = some route →
          arrival.gatewayRejects route = arrival.quinnRejects route ∧
            arrival.quinnRejects route = arrival.quicheRejects route := by
  have quinn := quinn_serves same
  have quiche := quiche_serves same
  cases probe : Proxy.isProbe arrival.session.req with
  | true =>
    have unrejected := not_rejected_of_probe probe quinn quiche
    exact iff_of_true (fun one _ rejected => absurd rejected (unrejected one)) (.inl rfl)
  | false =>
    cases proxied : arrival.incompatible with
    | true => exact iff_of_true (agrees_of_incompatible probe proxied quinn quiche) (by simp)
    | false =>
      simp only [Bool.false_eq_true, false_or]
      cases found : arrival.route with
      | none =>
        have unrejected := not_rejected_of_unrouted same.quiet found quinn quiche
        exact iff_of_true (fun one _ rejected => absurd rejected (unrejected one)) (by simp)
      | some route =>
        simp only [some.injEq, forall_eq']
        exact agrees_of_checks
          ⟨(gateway_routed same.quiet found).1, (gateway_routed same.quiet found).2 proxied⟩
          (quinn.routed route probe proxied found) (quiche.routed route probe proxied found)

end

/-! A route with an API key, and requests with and without the key. -/

def guardedRoute : Route where
  path := "/"
  pathType := .lead
  backend := { address := "10.0.0.1:80", port := 80, useTls := false }

def guardedTable : RouteTable :=
  (RouteTable.fromRoutes (HashMap.empty.insert "a.example" [guardedRoute])).insertEdge
    "a.example" "/" { auth := some (.apiKey "secret") }

def parseAscii (message : Text) (valid : UInt8 → Bool) (bytes : Bytes) :
    Except Text Text :=
  if !bytes.isEmpty && bytes.all valid then .ok (bytes.map fun byte => Char.ofNat byte.toNat)
  else .error message

def isVisible (byte : UInt8) : Bool :=
  33 ≤ byte && byte < 127

def parsers : HttpParsers where
  method := parseAscii "invalid HTTP method" fun byte => 65 ≤ byte && byte ≤ 90
  scheme := parseAscii "invalid scheme" fun byte => 97 ≤ byte && byte ≤ 122
  authority := parseAscii "invalid authority" isVisible
  pathAndQuery := parseAscii "invalid uri character" isVisible
  headerName bytes := (parseAscii "invalid HTTP header name" isVisible bytes).map
    toAsciiLowercase
  headerValue bytes :=
    if (headerToStr bytes).isSome then .ok bytes else .error "failed to parse header value"
  uri scheme authority pathAndQuery :=
    match scheme, authority, pathAndQuery with
    | some scheme, some authority, some pathAndQuery =>
      .ok { scheme := some scheme, host := some (before ':' authority), pathAndQuery }
    | _, _, _ => .error "invalid format"

def credentials (key : Option Text) : HeaderMap :=
  key.toList.map fun key => ("x-api-key".toList, key.asBytes)

def convertedRequest (key : Option Text) : RequestHeader where
  method := "GET"
  uri := { scheme := some "https", host := some "a.example", pathAndQuery := "/" }
  headers := ("host".toList, asBytes "a.example") :: credentials key

def guardedArrival (key : Option Text) : Arrival where
  gateway := { process := default, autoHttps := false, httpsPort := 443 }
  session :=
    { req :=
        { method := "GET"
          uri := { pathAndQuery := "/" }
          headers := ("host".toList, asBytes "a.example") :: credentials key }
      clientAddr := some (.inet (.v4 ⟨203, 0, 113, 9⟩)) }
  incoming :=
    { req :=
        { method := "GET"
          uri := { scheme := some "https", host := some "a.example", pathAndQuery := "/" }
          headers := credentials key }
      remote := .v4 ⟨203, 0, 113, 9⟩ }
  http := parsers
  fields :=
    [(asBytes ":method", asBytes "GET"),
      (asBytes ":scheme", asBytes "https"),
      (asBytes ":authority", asBytes "a.example"),
      (asBytes ":path", asBytes "/")] ++
      (credentials key).map fun header => (header.1.asBytes, header.2)
  moment := .ofTable guardedTable
  world := {}

theorem guardedArrival_same (known : key = none ∨ key = some "secret".toList) :
    (guardedArrival key).Same (convertedRequest key) := by
  have named : ∀ host, (pseudoAuthority (guardedArrival key).fields).bind Bytes.fromUtf8 =
      some host → host = requestHost (guardedArrival key).session.req := by
    intro host found
    have authority : (pseudoAuthority (guardedArrival key).fields).bind Bytes.fromUtf8 =
      some (requestHost (guardedArrival key).session.req) := by rfl
    exact some.inj (found.symm.trans authority)
  rcases known with equal | equal <;> subst equal
  all_goals
    exact
      { quinn := ⟨by decide, by decide, by decide, by decide, by decide, by decide⟩
        quiche := ⟨by decide, by decide, by decide, by decide, by decide, by decide⟩
        converted := by rfl
        methodPath := by decide
        authority := named
        address := by decide
        quiet := rfl }

theorem keyed_arrival_agrees : (guardedArrival (some "secret")).Agrees := by
  apply (agrees_iff (guardedArrival_same (.inr rfl))).mpr
  refine .inr (.inr ?_)
  intro route found
  have only : (guardedArrival (some "secret")).route = some guardedRoute := by decide
  cases only.symm.trans found
  decide

/-- Without the key the request is rejected by two planes and passed by the third. -/
theorem keyless_arrival_disagrees : (guardedArrival none).Same (convertedRequest none) ∧
      (guardedArrival none).disposition .pingora = .rejected ∧
      (guardedArrival none).disposition .quinn = .rejected ∧
      (guardedArrival none).disposition .quiche = .passed :=
  ⟨guardedArrival_same (.inl rfl), by decide, by decide, by decide⟩

end Arrival

end PertiskProxy.Proxy
