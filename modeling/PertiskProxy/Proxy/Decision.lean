import PertiskProxy.Proxy.Gateway

/-! The answer of the request filter as the first of a list of verdicts. -/

namespace PertiskProxy.Proxy

open Edge FilterChain Http Router Security Verdict FilterState MiddlewareAction

namespace Gateway

def answeredEarlier (gateway : Gateway) (session : Session) (moments : Nat → Moment) : Bool :=
  isProbe session.req || (pendingChallenge session (moments 1)).isSome ||
    gateway.process.isInstallerHost (requestHost session.req)

/-- The filter lets a plain request through because no certificate covers it. -/
def lacksCertificate (gateway : Gateway) (session : Session) (moment : Moment) : Bool :=
  gateway.autoHttps && isPlainHttp session &&
    !moment.certs.hasCertForHost (redirectHost session)

def frontDisposition (gateway : Gateway) (session : Session) (moments : Nat → Moment) :
    Option Disposition :=
  if answeredEarlier gateway session moments then some .other
  else if gateway.autoHttps && isPlainHttp session then
    if redirectDenied gateway session (moments 3) then some .refused
    else if (moments 3).certs.hasCertForHost (redirectHost session) then some .other
    else some .passed
  else if isDenied gateway.process (requestHost session.req) (moments 4) then some .refused
  else none

theorem disposition_frontVerdicts (gateway : Gateway) (session : Session)
    (moments : Nat → Moment) :
    (first (frontVerdicts gateway session moments)).map Outcome.disposition =
      frontDisposition gateway session moments := by
  rw [frontDisposition, frontVerdicts]
  cases probe : isProbe session.req with
  | true =>
    simp [answeredEarlier, healthVerdict, first_cons, probe, Outcome.disposition,
      Answer.disposition]
  | false =>
    cases pending : pendingChallenge session (moments 1) with
    | some body =>
      simp [answeredEarlier, healthVerdict, acmeVerdict, first_cons, probe, pending,
        Outcome.disposition, Answer.disposition]
    | none =>
      cases installs : gateway.process.isInstallerHost (requestHost session.req) with
      | true =>
        simp [answeredEarlier, healthVerdict, acmeVerdict, first_cons, probe,
          pending, installs, Outcome.disposition, Answer.disposition]
      | false =>
        simp only [answeredEarlier, healthVerdict, acmeVerdict, redirectVerdict,
          first_cons, first_nil, probe, pending, installs]
        split_ifs <;> simp_all [Outcome.disposition, Answer.disposition]

def consulAtFilter (session : Session) (moments : Nat → Moment) (world : World) : ConsulState :=
  ((frontState session moments world).arrive (moments 5)).passage.world.consul

/-! ## The cache -/

section

variable (session : Session) (ctx : RequestCtx) (moment : Moment) (world : World)

def cacheHit : Option CachedResponse :=
  if cacheable session ctx moment.router.table.globals then
    (cacheGet moment.clock.instant (cacheKey session) world.cache).1
  else none

def cacheVerdict : Verdict Answer :=
  match cacheHit session ctx moment world with
  | some response => .stop (.cached response)
  | none => .next

end

variable (session : Session) (moments : Nat → Moment)

theorem cache_fst (moment : Moment) (state : FilterState) :
    (cache session moment state).1 =
      (cacheVerdict session state.ctx moment (state.arrive moment).passage.world).map
        .answered := by
  simp only [cache, cacheVerdict, cacheHit]
  by_cases allowed : cacheable session (state.arrive moment).ctx moment.router.table.globals
  · have same : cacheable session state.ctx moment.router.table.globals = true := allowed
    simp only [allowed, same, if_true]
    rcases cacheGet moment.clock.instant (cacheKey session)
      (state.arrive moment).passage.world.cache with ⟨hit, rest⟩
    cases hit <;> rfl
  · have same : ¬cacheable session state.ctx moment.router.table.globals = true := allowed
    simp only [allowed, same]
    rfl

theorem cache_ctx (moment : Moment) (state : FilterState) :
    (cache session moment state).2.ctx.toMiddlewareAction = state.ctx.toMiddlewareAction ∧
      (cache session moment state).2.ctx.toRequestClass = state.ctx.toRequestClass := by
  simp only [cache]
  split
  · split <;> exact ⟨rfl, rfl⟩
  · exact ⟨rfl, rfl⟩

theorem cacheVerdict_congr (session : Session)
    (policies : left.toMiddlewareAction = right.toMiddlewareAction)
    (same : left.toRequestClass = right.toRequestClass) (moment : Moment) (world : World) :
    cacheVerdict session left moment world = cacheVerdict session right moment world := by
  have edge : left.edge = right.edge := congrArg edge policies
  have allowed : cacheable session left = cacheable session right := by
    funext globals
    simp [cacheable, same, edge]
  rw [cacheVerdict, cacheVerdict, cacheHit, cacheHit, allowed]

theorem grpcVerdict_congr (session : Session)
    (same : left.toRequestClass = right.toRequestClass) :
    grpcVerdict session left = grpcVerdict session right := by
  have isGrpc : left.isGrpc = right.isGrpc := congrArg RequestClass.isGrpc same
  have isGrpcWeb : left.isGrpcWeb = right.isGrpcWeb := congrArg RequestClass.isGrpcWeb same
  rw [grpcVerdict, grpcVerdict, isGrpc, isGrpcWeb]

/-! ## The route's policies in the context -/

def routeCtx (session : Session) (table : RouteTable) (route : Route) : RequestCtx where
  toMiddlewareAction := routeAction table (requestHost session.req) route
  toRequestClass := (earlyRequestFilter session).toRequestClass

def resolvedState (session : Session) (moments : Nat → Moment) (world : World) : FilterState :=
  (resolve session (moments 5) (frontState session moments world)).2

theorem resolvedState_ctx {route : Route}
    (matched : (moments 5).router.table.matchRouteEntry (requestHost session.req)
      (Text.before '?' session.req.target) = some route) (world : World) :
    (resolvedState session moments world).ctx =
      if plannable route.backend (consulAtFilter session moments world) then
        routeCtx session (moments 5).router.table route
      else earlyRequestFilter session := by
  have planned := planRoute_isOk (moments 5).probeTls route.backend
    (routeMiddleware (moments 5).router.table (requestHost session.req) route)
    (upstreamPath (routeMiddleware (moments 5).router.table (requestHost session.req) route)
      session.req.target) (consulAtFilter session moments world)
  rw [← planned, consulAtFilter]
  simp only [resolvedState, resolve, resolveForward_of_match matched]
  split
  · next plan found =>
    have policies := planRoute_middleware found
    rw [found]
    simp only [Except.isOk, Except.toBool, if_true, RequestCtx.withPlan, routeCtx, routeAction,
      policies]
    rfl
  · next failed =>
    rw [failed]
    rfl

theorem resolvedState_ctx_of_no_match
    (unmatched : (moments 5).router.table.matchRouteEntry (requestHost session.req)
      (Text.before '?' session.req.target) = none) (world : World) :
    (resolvedState session moments world).ctx = earlyRequestFilter session := by
  simp only [resolvedState, resolve, resolveForward, unmatched]
  rfl

theorem upstreamPeer_isOk {session : Session} {later : Moment} {route : Route}
    (matched : later.router.table.matchRouteEntry (requestHost session.req)
      (Text.before '?' session.req.target) = some route) (state : FilterState) :
    (upstreamPeer session later state).1.isOk =
      plannable route.backend (state.arrive later).passage.world.consul := by
  rw [← planRoute_isOk later.probeTls route.backend
    (routeMiddleware later.router.table (requestHost session.req) route)
    (upstreamPath (routeMiddleware later.router.table (requestHost session.req) route)
      session.req.target)]
  simp only [upstreamPeer, resolveForward_of_match matched]
  split
  · next failed =>
    rw [failed]
    rfl
  · next plan found =>
    rw [found]
    split <;> rfl

/-! ## Verdicts on the route -/

section

variable (gateway : Gateway) (session : Session) (moments : Nat → Moment) (world : World)

/-- The state in which a check of the route starts, had none before it stopped. -/
def routeState (index : Nat) : FilterState :=
  reach (fun later => moments (later + 6)) ((routeStages gateway session).take index)
    (resolvedState session moments world)

def passageAt (index : Nat) : Passage :=
  ((routeState gateway session moments world index).arrive (moments (index + 6))).passage

theorem routeStages_ctx (member : stage ∈ routeStages gateway session) (moment : Moment)
    (state : FilterState) :
    (stage moment state).2.ctx.toMiddlewareAction = state.ctx.toMiddlewareAction ∧
      (stage moment state).2.ctx.toRequestClass = state.ctx.toRequestClass := by
  rcases routeStages_cases member with rfl | rfl | ⟨check, rfl⟩
  · exact ⟨rfl, rfl⟩
  · exact cache_ctx session moment state
  · exact ⟨rfl, rfl⟩

theorem routeState_ctx (index : Nat) :
    (routeState gateway session moments world index).ctx.toMiddlewareAction =
        (resolvedState session moments world).ctx.toMiddlewareAction ∧
      (routeState gateway session moments world index).ctx.toRequestClass =
        (resolvedState session moments world).ctx.toRequestClass := by
  apply reach_preserves fun state : FilterState =>
    state.ctx.toMiddlewareAction = (resolvedState session moments world).ctx.toMiddlewareAction ∧
      state.ctx.toRequestClass = (resolvedState session moments world).ctx.toRequestClass
  · intro stage member moment state kept
    have step := routeStages_ctx gateway session (List.mem_of_mem_take member) moment state
    exact ⟨step.1.trans kept.1, step.2.trans kept.2⟩
  · exact ⟨rfl, rfl⟩

def routeVerdicts (ctx : RequestCtx) : List (Verdict Answer) :=
  let host := requestHost session.req
  let clientIp := sessionClientIp session
  let found := passageAt gateway session moments world
  [(checkX4xx (edgeClient session) host ctx.edge (moments 6) (found 0)).1,
    (checkRate (edgeClient session) host ctx.edge (moments 7) (found 1)).1,
    (checkAuth gateway.process host session.req ctx.edge (moments 9) (found 3)).1,
    fileVerdict ctx.fileRoot session.req (moments 10),
    cacheVerdict session ctx (moments 11) (found 5).world,
    (checkGeoip ctx.geoip clientIp (moments 12) (found 6)).1,
    captchaVerdict gateway.process queryParam ctx.security session.req clientIp (moments 13),
    (checkSecurity gateway.process true ctx.security session.req clientIp (moments 14)
      (found 8)).1,
    grpcVerdict session ctx]

theorem first_verdicts_routeStages :
    first (FilterChain.verdicts (fun index => moments (index + 6))
        (routeStages gateway session) (resolvedState session moments world)) =
      (first (routeVerdicts gateway session moments world
        (resolvedState session moments world).ctx)).map .answered := by
  let found := routeState gateway session moments world
  have listed : FilterChain.verdicts (fun index => moments (index + 6))
      (routeStages gateway session) (resolvedState session moments world) =
      [(limitErrors session (moments 6) (found 0)).1,
        (limitRate session (moments 7) (found 1)).1,
        (bookkeeping session (moments 8) (found 2)).1,
        (authenticate gateway session (moments 9) (found 3)).1,
        (files session (moments 10) (found 4)).1,
        (cache session (moments 11) (found 5)).1,
        (geoip session (moments 12) (found 6)).1,
        (captcha gateway session (moments 13) (found 7)).1,
        (security gateway session (moments 14) (found 8)).1,
        (validateGrpc session (moments 15) (found 9)).1] := by
    rw [verdicts_eq_mapIdx]
    rfl
  have edge : ∀ index, (found index).ctx.edge = _ := fun index =>
    congrArg edge (routeState_ctx gateway session moments world index).1
  have fileRoot : ∀ index, (found index).ctx.fileRoot = _ := fun index =>
    congrArg fileRoot (routeState_ctx gateway session moments world index).1
  have geo : ∀ index, (found index).ctx.geoip = _ := fun index =>
    congrArg MiddlewareAction.geoip (routeState_ctx gateway session moments world index).1
  have waf : ∀ index, (found index).ctx.security = _ := fun index =>
    congrArg MiddlewareAction.security (routeState_ctx gateway session moments world index).1
  have cached := cacheVerdict_congr session (routeState_ctx gateway session moments world 5).1
    (routeState_ctx gateway session moments world 5).2 (moments 11)
    (passageAt gateway session moments world 5).world
  have grpc := grpcVerdict_congr session (routeState_ctx gateway session moments world 9).2
  rw [listed, ← first_map, routeVerdicts, ← cached, ← grpc, cache_fst]
  simp only [limitErrors, limitRate, bookkeeping, authenticate, files, geoip, captcha, security,
    validateGrpc, policyStage_fst, edge, fileRoot, geo, waf, List.map_cons, List.map_nil,
    first_cons, answer_next, Option.none_or, stateless, passageAt]
  rfl

def edgeRejects (edge : EdgePolicy) : Bool :=
  let client := edgeClient session
  let host := requestHost session.req
  let found := passageAt gateway session moments world
  x4xxTrips client host edge (moments 6) (found 0).world ||
    rateTrips client host edge (moments 7) (found 1).world ||
    authTrips gateway.process host session.req edge (moments 9)

def routeDisposition (ctx : RequestCtx) : Disposition :=
  let clientIp := sessionClientIp session
  let found := passageAt gateway session moments world
  if edgeRejects gateway session moments world ctx.edge then .rejected
  else
    match ctx.fileRoot with
    | some root =>
      if (readableFile root session.req.uri.path (moments 10)).isSome then .content else .other
    | none =>
      if (cacheHit session ctx (moments 11) (found 5).world).isSome then .content
      else if geoipTrips ctx.geoip clientIp (moments 12) then .rejected
      else if isCaptchaPath session.req.uri.path then .other
      else if securityTrips gateway.process ctx.security session.req clientIp (moments 14)
        (found 8).world then .rejected
      else if grpcVerdict session ctx = .next then .passed
      else .refused

theorem routeDisposition_early :
    routeDisposition gateway session moments world (earlyRequestFilter session) =
      if (cacheHit session (earlyRequestFilter session) (moments 11)
        (passageAt gateway session moments world 5).world).isSome then .content
      else if isCaptchaPath session.req.uri.path then .other
      else if grpcVerdict session (earlyRequestFilter session) = .next then .passed
      else .refused := by
  have edge : edgeRejects gateway session moments world (earlyRequestFilter session).edge =
      false := by
    simp [edgeRejects, earlyRequestFilter, x4xxTrips, rateTrips, authTrips]
  have geo : geoipTrips (earlyRequestFilter session).geoip (sessionClientIp session)
      (moments 12) = false := by
    have inactive : (earlyRequestFilter session).geoip.isActive = false := rfl
    simp [geoipTrips, GeoIp.GeoIpEngine.evaluateIp_of_inactive inactive]
  have waf : ∀ found, securityTrips gateway.process (earlyRequestFilter session).security
      session.req (sessionClientIp session) (moments 14) found = false := by
    intro found
    simp [securityTrips, evaluate_of_inactive
      (rfl : (earlyRequestFilter session).security.isActive = false)]
  have rootless : (earlyRequestFilter session).fileRoot = none := rfl
  simp [routeDisposition, edge, geo, waf, rootless]

variable (ctx : RequestCtx)

open Disposition

theorem disposition_first_cacheVerdict (moment : Moment)
    (rest : List (Verdict Answer)) :
    of (first (cacheVerdict session ctx moment world :: rest)) =
      if (cacheHit session ctx moment world).isSome then .content
      else of (first rest) := by
  cases hit : cacheHit session ctx moment world <;>
    simp [first_cons, cacheVerdict, hit, of, Answer.disposition]

theorem disposition_first_grpcVerdict :
    of (first [grpcVerdict session ctx]) =
      if grpcVerdict session ctx = .next then .passed else .refused := by
  simp only [grpcVerdict]
  split
  · split <;> rfl
  · rfl

theorem disposition_routeVerdicts :
    of (first (routeVerdicts gateway session moments world ctx)) =
      routeDisposition gateway session moments world ctx := by
  simp only [routeVerdicts, routeDisposition, edgeRejects]
  rw [disposition_first_of_rejects (checkX4xx_rejects ..),
    disposition_first_of_rejects (checkRate_rejects ..),
    disposition_first_of_rejects (checkAuth_rejects ..), disposition_first_fileVerdict,
    disposition_first_cacheVerdict, disposition_first_of_rejects (checkGeoip_rejects ..),
    disposition_first_captchaVerdict, disposition_first_of_rejects (checkSecurity_rejects ..),
    disposition_first_grpcVerdict]
  cases ctx.fileRoot <;> simp only [Bool.or_eq_true, ite_or]

theorem requestFilter_eq_first : (requestFilter gateway session moments world).1 =
      ((first (frontVerdicts gateway session moments)).or
        ((first (routeVerdicts gateway session moments world
          (resolvedState session moments world).ctx)).map .answered)).getD .forward := by
  rw [requestFilter_fst, run_cons_fst, resolve_fst, answer_next, Option.none_or,
    FilterChain.run_fst]
  exact congrArg (fun later => ((first (frontVerdicts gateway session moments)).or
    later).getD .forward) (first_verdicts_routeStages gateway session moments world)

theorem requestFilter_disposition : (requestFilter gateway session moments world).1.disposition =
      (frontDisposition gateway session moments).getD
        (routeDisposition gateway session moments world
          (resolvedState session moments world).ctx) := by
  rw [requestFilter_eq_first, ← disposition_frontVerdicts, ← disposition_routeVerdicts]
  cases first (frontVerdicts gateway session moments) with
  | some outcome => rfl
  | none =>
    cases first (routeVerdicts gateway session moments world
      (resolvedState session moments world).ctx) <;> rfl

end

/-! ## One quiet moment -/

section

variable (gateway : Gateway) (session : Session) {moment : Moment} (world : World)
  (quiet : moment.interference = id)
include quiet

theorem frontState_of_quiet : frontState session (fun _ => moment) world =
      { ctx := earlyRequestFilter session, passage := { world } } := by
  simp [frontState, arriveFront, arrive_of_quiet quiet]

theorem consulAtFilter_of_quiet :
    consulAtFilter session (fun _ => moment) world = world.consul := by
  rw [consulAtFilter, frontState_of_quiet session world quiet, arrive_of_quiet quiet]

theorem resolvedState_world :
    ∃ consul, (resolvedState session (fun _ => moment) world).passage.world =
      { world with consul } := by
  simp only [resolvedState, frontState_of_quiet session world quiet, resolve,
    arrive_of_quiet quiet]
  split <;> exact ⟨_, rfl⟩

theorem policyStage_world (check : RequestCtx → PolicyCheck) (state : FilterState) :
    (policyStage check moment state).2.passage.world =
      (check state.ctx moment state.passage).2.world := by
  simp [policyStage, arrive_of_quiet quiet]

theorem bookkeeping_world (state : FilterState) :
    (bookkeeping session moment state).2.passage.world = state.passage.world := by
  simp [bookkeeping, arrive_of_quiet quiet]

theorem cache_rates (state : FilterState) :
    (cache session moment state).2.passage.world.rates = state.passage.world.rates := by
  simp only [cache, arrive_of_quiet quiet]
  split
  · split <;> rfl
  · rfl

theorem passageAt_windows :
    (passageAt gateway session (fun _ => moment) world 0).world.windows = world.windows ∧
      (passageAt gateway session (fun _ => moment) world 1).world.windows = world.windows := by
  rcases resolvedState_world session world quiet with ⟨consul, resolved⟩
  simp only [passageAt, arrive_of_quiet quiet]
  constructor
  · simp [routeState, reach, resolved]
  · simp [routeState, routeStages, reach, resolved, limitErrors, policyStage_world quiet]

theorem passageAt_cache :
    (passageAt gateway session (fun _ => moment) world 5).world.cache = world.cache := by
  rcases resolvedState_world session world quiet with ⟨consul, resolved⟩
  simp only [passageAt, arrive_of_quiet quiet]
  simp [routeState, routeStages, reach, resolved, limitErrors, limitRate, authenticate, files,
    stateless, policyStage_world quiet, bookkeeping_world session quiet]

theorem passageAt_rates :
    (passageAt gateway session (fun _ => moment) world 8).world.rates = world.rates := by
  rcases resolvedState_world session world quiet with ⟨consul, resolved⟩
  simp only [passageAt, arrive_of_quiet quiet]
  simp [routeState, routeStages, reach, resolved, limitErrors, limitRate, authenticate, files,
    geoip, captcha, stateless, policyStage_world quiet, bookkeeping_world session quiet,
    cache_rates session quiet]

end

end Gateway

/-! When the gateway sends a request to HTTPS. -/

namespace Gateway

open Tls

def IsRedirect (outcome : Outcome) : Prop :=
  ∃ location, outcome = .answered (.httpsRedirect location)

variable {gateway : Gateway} {session : Session}

theorem not_redirect_of_check {check : RequestCtx → PolicyCheck}
    (other : ∀ ctx moment passage location,
      (check ctx moment passage).1 ≠ .stop (.httpsRedirect location))
    (moment : Moment) (state : FilterState) (location : Text) :
    (policyStage check moment state).1 ≠ .stop (.answered (.httpsRedirect location)) := by
  rw [policyStage_fst]
  have kept := other state.ctx moment (state.arrive moment).passage location
  cases given : (check state.ctx moment (state.arrive moment).passage).1 with
  | next => simp
  | stop answer =>
    intro equal
    cases equal
    exact kept given

theorem not_redirect_of_rejectsWhen (rejects : RejectsWhen verdict condition) (location : Text) :
    verdict ≠ .stop (.httpsRedirect location) := by
  intro equal
  cases condition with
  | true =>
    rcases rejects.1 rfl with ⟨answer, given, policy⟩
    rw [equal] at given
    cases given
    cases policy
  | false =>
    rw [rejects.2 rfl] at equal
    cases equal

theorem file_not_redirect (fileRoot : Option Text) (req : RequestHeader)
    (moment : Moment) (location : Text) :
    fileVerdict fileRoot req moment ≠ .stop (.httpsRedirect location) := by
  simp only [fileVerdict]
  split
  · split <;> simp
  · simp

theorem captcha_not_redirect (process : Process) (param : Text → Text → Option Text)
    (policy : Security.SecurityPolicy) (req : RequestHeader) (clientIp : Option Text)
    (moment : Moment) (location : Text) :
    captchaVerdict process param policy req clientIp moment ≠
      .stop (.httpsRedirect location) := by
  simp only [captchaVerdict]
  split
  · split
    · split <;> simp
    · simp
  · simp

theorem grpc_not_redirect (ctx : RequestCtx) (location : Text) :
    grpcVerdict session ctx ≠ .stop (.httpsRedirect location) := by
  simp only [grpcVerdict]
  split
  · split <;> simp
  · simp

theorem cache_not_redirect (moment : Moment) (state : FilterState) (location : Text) :
    (cache session moment state).1 ≠ .stop (.answered (.httpsRedirect location)) := by
  simp only [cache]
  split
  · split <;> simp
  · simp

theorem not_redirect_of_mem (member : stage ∈ resolve session :: routeStages gateway session)
    (moment : Moment) (state : FilterState) (location : Text) :
    (stage moment state).1 ≠ .stop (.answered (.httpsRedirect location)) := by
  unfold routeStages at member
  fin_cases member
  · simp [resolve_fst]
  · apply not_redirect_of_check
    intro ctx moment passage
    exact not_redirect_of_rejectsWhen (checkX4xx_rejects ..)
  · apply not_redirect_of_check
    intro ctx moment passage
    exact not_redirect_of_rejectsWhen (checkRate_rejects ..)
  · simp [bookkeeping]
  · apply not_redirect_of_check
    intro ctx moment passage
    exact not_redirect_of_rejectsWhen (checkAuth_rejects ..)
  · apply not_redirect_of_check
    intro ctx moment _
    exact file_not_redirect _ _ moment
  · exact cache_not_redirect moment state location
  · apply not_redirect_of_check
    intro ctx moment passage
    exact not_redirect_of_rejectsWhen (checkGeoip_rejects ..)
  · apply not_redirect_of_check
    intro ctx moment _
    exact captcha_not_redirect _ _ _ _ _ moment
  · apply not_redirect_of_check
    intro ctx moment passage
    exact not_redirect_of_rejectsWhen (checkSecurity_rejects ..)
  · apply not_redirect_of_check
    intro ctx _ _
    exact grpc_not_redirect ctx

theorem later_not_redirect (moments : Nat → Moment) (state : FilterState) :
    ¬IsRedirect (((FilterChain.run moments
      (resolve session :: routeStages gateway session) state).1).getD .forward) := by
  intro ⟨location, redirects⟩
  cases stopped : (FilterChain.run moments
      (resolve session :: routeStages gateway session) state).1 with
  | none =>
    rw [stopped] at redirects
    cases redirects
  | some outcome =>
    rw [stopped, Option.getD_some] at redirects
    rcases exists_stage_of_run stopped with ⟨stage, member, moment, before, given⟩
    exact not_redirect_of_mem member moment before location (redirects ▸ given)

theorem redirectVerdict_cases (gateway : Gateway) (session : Session) (moment : Moment) :
    (redirectVerdict gateway session moment = .next ∧
      ¬(gateway.autoHttps = true ∧ isPlainHttp session = true)) ∨
    (∃ outcome, redirectVerdict gateway session moment = .stop outcome ∧
      gateway.autoHttps = true ∧ isPlainHttp session = true ∧
      (IsRedirect outcome ↔ redirectDenied gateway session moment = false ∧
        moment.certs.hasCertForHost (redirectHost session) = true)) := by
  cases automatic : gateway.autoHttps with
  | false => simp [redirectVerdict, automatic]
  | true =>
    cases plain : isPlainHttp session with
    | false => simp [redirectVerdict, automatic, plain]
    | true =>
      cases denied : redirectDenied gateway session moment with
      | true => simp [redirectVerdict, automatic, plain, denied, IsRedirect]
      | false =>
        cases covered : moment.certs.hasCertForHost (redirectHost session) with
        | true | false => simp [redirectVerdict, automatic, plain, denied, covered, IsRedirect]

/-- The filter redirects exactly when it gets to the redirect and that finds a
plain request for an admitted host with a certificate. -/
theorem isRedirect_requestFilter (gateway : Gateway) (session : Session)
    (moments : Nat → Moment) (world : World) :
    IsRedirect (requestFilter gateway session moments world).1 ↔
      answeredEarlier gateway session moments = false ∧ gateway.autoHttps = true ∧
        isPlainHttp session = true ∧ redirectDenied gateway session (moments 3) = false ∧
        (moments 3).certs.hasCertForHost (redirectHost session) = true := by
  rw [requestFilter_fst]
  simp only [frontVerdicts, Verdict.first_cons, healthVerdict, acmeVerdict, answeredEarlier,
    Verdict.map_when]
  cases isProbe session.req with
  | true => simp [IsRedirect]
  | false =>
    cases pendingChallenge session (moments 1) with
    | some body => simp [IsRedirect]
    | none =>
      cases gateway.process.isInstallerHost (requestHost session.req) with
      | true => simp [IsRedirect]
      | false =>
        simp only [Verdict.when_false, Verdict.map_next, Verdict.answer_next,
          Option.none_or, Option.isSome_none, Bool.or_self, true_and]
        rcases redirectVerdict_cases gateway session (moments 3) with
          ⟨passes, secure⟩ | ⟨outcome, stops, automatic, plain, exactly⟩
        · apply iff_of_false
          · rw [passes]
            cases isDenied gateway.process (requestHost session.req) (moments 4) with
            | true => simp [IsRedirect]
            | false => simpa using later_not_redirect (fun index => moments (index + 5)) _
          · intro redirected
            exact secure ⟨redirected.1, redirected.2.1⟩
        · rw [stops]
          simp [automatic, plain, exactly]

/-- With automatic HTTPS, a request is not redirected to HTTPS exactly when it
says itself that it came over HTTPS, is answered before, is for a refused host,
or has no certificate. The transport of the connection plays no part. -/
theorem requestFilter_keeps_https_iff (gateway : Gateway) (session : Session)
    (moments : Nat → Moment) (world : World) (automatic : gateway.autoHttps = true) :
    (∀ location, (requestFilter gateway session moments world).1 ≠
      .answered (.httpsRedirect location)) ↔
      (session.req.headers.getStr "x-forwarded-proto" = some "https".toList ∨
          session.req.uri.scheme = some "https".toList ∨
          session.req.uri.scheme = some "wss".toList) ∨
        answeredEarlier gateway session moments = true ∨
        redirectDenied gateway session (moments 3) = true ∨
        (moments 3).certs.hasCertForHost (redirectHost session) = false := by
  have kept : (∀ location, (requestFilter gateway session moments world).1 ≠
      .answered (.httpsRedirect location)) ↔
      ¬IsRedirect (requestFilter gateway session moments world).1 := by
    simp [IsRedirect]
  rw [kept, isRedirect_requestFilter, ← isPlainHttp_eq_false]
  cases answeredEarlier gateway session moments <;> cases isPlainHttp session <;>
    cases redirectDenied gateway session (moments 3) <;> simp [automatic]

def httpsGateway : Gateway where
  process := default
  autoHttps := true
  httpsPort := 443

def tlsSession (headers : HeaderMap) : Session where
  req := { method := "GET", uri := { pathAndQuery := "/" }, headers }
  sslDigest := true

def certifiedTable : Router.RouteTable :=
  .fromRoutes (HashMap.empty.insert "a.example"
    [{ path := "/", pathType := .lead,
       backend := { address := "10.0.0.1:80", port := 80, useTls := false } }])

def certifiedHost : Moment :=
  { Moment.ofTable certifiedTable with
    certs := CertStore.insertStoredForHosts {} ["a.example"] (.file "a.pem" "a.key") }

theorem requestFilter_keeps_forwarded_https : (requestFilter httpsGateway
      (tlsSession [("host", Text.asBytes "a.example"),
        ("x-forwarded-proto", Text.asBytes "https")]) (fun _ => certifiedHost) {}).1 ≠
      .answered (.httpsRedirect "https://a.example/") :=
  (requestFilter_keeps_https_iff httpsGateway _ _ _ rfl).mpr (.inl (.inl (by decide))) _

/-- An HTTP/1.1 request on a TLS connection is redirected to where it already is. -/
theorem requestFilter_redirects_tls :
    (requestFilter httpsGateway (tlsSession [("host", Text.asBytes "a.example")])
      (fun _ => certifiedHost) {}).1 =
      .answered (.httpsRedirect "https://a.example/".toList) := by
  decide

end Gateway

end PertiskProxy.Proxy
