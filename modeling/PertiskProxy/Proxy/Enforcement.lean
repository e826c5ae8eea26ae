import PertiskProxy.Proxy.Decision

/-! Which forwarded requests had the policies of their route enforced. -/

namespace PertiskProxy.Proxy

open Edge FilterChain GeoIp Http Router Security

/-- Every policy of a route was checked, with an outcome that admits. -/
structure Enforced (policies : MiddlewareAction) (checks : List Check) : Prop where
  auth : ∀ auth, policies.edge.auth = some auth → .auth auth true ∈ checks
  rateLimit : policies.edge.rateLimitRps > 0 →
    .rateLimit policies.edge.rateLimitRps false ∈ checks
  geoip : policies.geoip.isActive = true → .geoip policies.geoip .allow ∈ checks
  security : policies.security.isActive = true →
    .security policies.security .allow ∈ checks ∨ .security policies.security .log ∈ checks

structure PolicyFree (policies : MiddlewareAction) : Prop where
  auth : policies.edge.auth = none
  rateLimit : policies.edge.rateLimitRps = 0
  geoip : policies.geoip.isActive = false
  security : policies.security.isActive = false

theorem enforced_nil (policies : MiddlewareAction) :
    Enforced policies [] ↔ PolicyFree policies := by
  constructor
  · intro enforced
    refine ⟨?_, ?_, ?_, ?_⟩
    · cases configured : policies.edge.auth with
      | none => rfl
      | some auth => cases enforced.auth auth configured
    · have unlimited : ¬policies.edge.rateLimitRps > 0 := by
        intro limited
        cases enforced.rateLimit limited
      omega
    · cases active : policies.geoip.isActive with
      | false => rfl
      | true => cases enforced.geoip active
    cases active : policies.security.isActive with
    | false => rfl
    | true =>
      rcases enforced.security active with member | member
      · cases member
      · cases member
  intro free
  constructor
  · intro auth configured
    rw [free.auth] at configured
    cases configured
  · intro limited
    rw [free.rateLimit] at limited
    omega
  · intro active
    rw [free.geoip] at active
    cases active
  · intro active
    rw [free.security] at active
    cases active

/-! ## What passing a check records -/

section

variable {process : Process} {client host : Text} {edge : EdgePolicy} {req : RequestHeader}
  {clientIp : Option Text} {moment : Moment} {passage : Passage}

theorem checkRate_next (passed : (checkRate client host edge moment passage).1 = .next)
    (limited : edge.rateLimitRps > 0) : .rateLimit edge.rateLimitRps false ∈
      (checkRate client host edge moment passage).2.checks := by
  simp only [checkRate, limited, if_true, Verdict.when_eq_next] at passed ⊢
  simp [Passage.record, passed]

theorem checkAuth_next (passed : (checkAuth process host req edge moment passage).1 = .next)
    (configured : edge.auth = some auth) :
    .auth auth true ∈ (checkAuth process host req edge moment passage).2.checks := by
  simp only [checkAuth, configured, Verdict.when_eq_next, Bool.not_eq_false'] at passed ⊢
  simp [Passage.record, passed]

theorem checkGeoip_next (passed : (checkGeoip policy clientIp moment passage).1 = .next)
    (active : policy.isActive = true) :
    .geoip policy .allow ∈ (checkGeoip policy clientIp moment passage).2.checks := by
  simp only [checkGeoip, active, if_true, Verdict.when_eq_next, decide_eq_false_iff_not,
    not_not] at passed ⊢
  simp [Passage.record, passed]

theorem checkSecurity_next
    (passed : (checkSecurity process pages policy req clientIp moment passage).1 = .next)
    (active : policy.isActive = true) : .security policy .allow ∈
        (checkSecurity process pages policy req clientIp moment passage).2.checks ∨
      .security policy .log ∈
        (checkSecurity process pages policy req clientIp moment passage).2.checks := by
  simp only [checkSecurity, active, if_true] at passed ⊢
  cases action : (evaluate process.captchaMac moment.clock policy (securityView req clientIp)
      passage.world.rates).1.action with
  | allow | log => simp [Passage.record]
  | challenge | block => simp [action] at passed

end

/-! ## Stages keep what they find -/

def Below (before after : FilterState) : Prop :=
  before.ctx.toMiddlewareAction = after.ctx.toMiddlewareAction ∧
    before.passage.checks ⊆ after.passage.checks

theorem below_refl (state : FilterState) : Below state state :=
  ⟨rfl, List.Subset.refl _⟩

theorem below_trans (first second third : FilterState) (lower : Below first second)
    (upper : Below second third) : Below first third :=
  ⟨lower.1.trans upper.1, List.Subset.trans lower.2 upper.2⟩

theorem subset_record (passage : Passage) (check : Check) :
    passage.checks ⊆ (passage.record check).checks :=
  List.subset_append_left _ _

theorem policyStage_next (passed : policyStage check moment before = (.next, after)) :
    (check before.ctx moment (before.arrive moment).passage).1 = .next ∧
      after.passage = (check before.ctx moment (before.arrive moment).passage).2 := by
  have verdict := congrArg Prod.fst passed
  have reached := congrArg Prod.snd passed
  exact ⟨Verdict.map_eq_next.mp verdict, congrArg FilterState.passage reached.symm⟩

theorem below_policyStage
    (adds : ∀ ctx moment passage, passage.checks ⊆ (check ctx moment passage).2.checks)
    (passed : policyStage check moment before = (.next, after)) : Below before after := by
  have reached : after = (policyStage check moment before).2 := by rw [passed]
  subst reached
  exact ⟨rfl, adds before.ctx moment (before.arrive moment).passage⟩

namespace Gateway

variable {gateway : Gateway} {session : Session}

theorem cache_next (passed : cache session moment before = (.next, after)) :
    before.ctx.toMiddlewareAction = after.ctx.toMiddlewareAction ∧
      before.passage.checks = after.passage.checks := by
  simp only [cache] at passed
  split at passed
  · split at passed
    · cases passed
    · cases passed
      exact ⟨rfl, rfl⟩
  · cases passed
    exact ⟨rfl, rfl⟩

theorem below_of_mem_routeStages (member : stage ∈ routeStages gateway session)
    (moment : Moment) (before after : FilterState)
    (passed : stage moment before = (.next, after)) : Below before after := by
  unfold routeStages at member
  fin_cases member
  · apply below_policyStage _ passed
    intro ctx moment passage
    simp only [checkX4xx]
    split
    · exact subset_record ..
    · exact List.Subset.refl _
  · apply below_policyStage _ passed
    intro ctx moment passage
    simp only [checkRate]
    split
    · exact subset_record ..
    · exact List.Subset.refl _
  · cases passed
    exact ⟨rfl, List.Subset.refl _⟩
  · apply below_policyStage _ passed
    intro ctx moment passage
    simp only [checkAuth]
    split
    · exact subset_record ..
    · exact List.Subset.refl _
  · exact below_policyStage (fun _ _ _ => List.Subset.refl _) passed
  · have kept := cache_next passed
    exact ⟨kept.1, kept.2 ▸ List.Subset.refl _⟩
  · apply below_policyStage _ passed
    intro ctx moment passage
    simp only [checkGeoip]
    split
    · exact subset_record ..
    · exact List.Subset.refl _
  · exact below_policyStage (fun _ _ _ => List.Subset.refl _) passed
  · apply below_policyStage _ passed
    intro ctx moment passage
    simp only [checkSecurity]
    split
    · exact subset_record ..
    · exact List.Subset.refl _
  · exact below_policyStage (fun _ _ _ => List.Subset.refl _) passed

/-- The policies in the context when a run through the route's stages starts
were enforced when it ends. -/
theorem enforced_of_routeStages
    (through : FilterChain.run moments (routeStages gateway session) state = (none, final)) :
    Enforced state.ctx.toMiddlewareAction final.passage.checks := by
  have passed := (run_member Below below_refl below_trans
    (fun stage member => below_of_mem_routeStages member) through).2
  constructor
  · intro auth configured
    rcases passed (authenticate gateway session) (by simp [routeStages]) with
      ⟨moment, before, after, below, stepped, above⟩
    have step := policyStage_next stepped
    apply above.2
    rw [step.2]
    exact checkAuth_next step.1 (by rw [← below.1, configured])
  · intro limited
    rcases passed (limitRate session) (by simp [routeStages]) with
      ⟨moment, before, after, below, stepped, above⟩
    have step := policyStage_next stepped
    apply above.2
    rw [below.1] at limited ⊢
    rw [step.2]
    exact checkRate_next step.1 limited
  · intro active
    rcases passed (geoip session) (by simp [routeStages]) with
      ⟨moment, before, after, below, stepped, above⟩
    have step := policyStage_next stepped
    apply above.2
    rw [below.1] at active ⊢
    rw [step.2]
    exact checkGeoip_next step.1 active
  intro active
  rcases passed (security gateway session) (by simp [routeStages]) with
    ⟨moment, before, after, below, stepped, above⟩
  have step := policyStage_next stepped
  rw [below.1] at active ⊢
  rcases checkSecurity_next step.1 active with allowed | logged
  · exact .inl (above.2 (step.2 ▸ allowed))
  · exact .inr (above.2 (step.2 ▸ logged))

/-! ## Contexts without policies -/

def Idle (state : FilterState) : Prop :=
  state.ctx.toMiddlewareAction = { forwardClientIp := false } ∧ state.passage.checks = []

theorem idle_policyStage {check : RequestCtx → PolicyCheck}
    (silent : ∀ ctx moment passage, ctx.toMiddlewareAction = { forwardClientIp := false } →
      (check ctx moment passage).2.checks = passage.checks)
    {moment : Moment} {before after : FilterState}
    (passed : policyStage check moment before = (.next, after)) (idle : Idle before) :
    Idle after := by
  have reached : after = (policyStage check moment before).2 := by rw [passed]
  subst reached
  exact ⟨idle.1, (silent before.ctx moment (before.arrive moment).passage idle.1).trans idle.2⟩

theorem idle_of_mem_routeStages (member : stage ∈ routeStages gateway session) (moment : Moment)
    (before after : FilterState) (passed : stage moment before = (.next, after))
    (idle : Idle before) : Idle after := by
  unfold routeStages at member
  fin_cases member
  · apply idle_policyStage _ passed idle
    intro ctx moment passage bare
    simp [checkX4xx, bare]
  · apply idle_policyStage _ passed idle
    intro ctx moment passage bare
    simp [checkRate, bare]
  · cases passed
    exact idle
  · apply idle_policyStage _ passed idle
    intro ctx moment passage bare
    simp [checkAuth, bare]
  · exact idle_policyStage (fun _ _ _ _ => rfl) passed idle
  · have kept := cache_next passed
    exact ⟨kept.1.symm.trans idle.1, kept.2.symm.trans idle.2⟩
  · apply idle_policyStage _ passed idle
    intro ctx moment passage bare
    simp [checkGeoip, bare, GeoIpPolicy.isActive]
  · exact idle_policyStage (fun _ _ _ _ => rfl) passed idle
  · apply idle_policyStage _ passed idle
    intro ctx moment passage bare
    have inactive : ({} : SecurityPolicy).isActive = false := rfl
    simp [checkSecurity, bare, inactive]
  · exact idle_policyStage (fun _ _ _ _ => rfl) passed idle

/-! ## Runs of the filter -/

theorem frontStages_through {moments : Nat → Moment} {world : World}
    {middle : FilterState} (through : FilterChain.run moments (frontStages gateway session)
      { ctx := earlyRequestFilter session, passage := { world } } = (none, middle)) :
    middle = frontState session moments world ∧
      redirectVerdict gateway session (moments 3) = .next := by
  rcases run_cons_eq_none.mp through with ⟨afterHealth, healthStep, through⟩
  rcases run_cons_eq_none.mp through with ⟨afterAcme, acmeStep, through⟩
  rcases run_cons_eq_none.mp through with ⟨afterInstaller, installerStep, through⟩
  rcases run_cons_eq_none.mp through with ⟨afterRedirect, redirectStep, through⟩
  rcases run_cons_eq_none.mp through with ⟨afterDeny, denyStep, through⟩
  cases through
  cases congrArg Prod.snd healthStep
  cases congrArg Prod.snd acmeStep
  cases congrArg Prod.snd installerStep
  cases congrArg Prod.snd redirectStep
  cases congrArg Prod.snd denyStep
  exact ⟨rfl, congrArg Prod.fst redirectStep⟩

theorem lacksCertificate_of_next
    (passes : redirectVerdict gateway session moment = .next) :
    lacksCertificate gateway session moment = false := by
  cases automatic : gateway.autoHttps && isPlainHttp session with
  | false => simp [lacksCertificate, automatic]
  | true =>
    simp only [redirectVerdict, automatic, if_true] at passes
    split at passes
    · cases passes
    · split at passes <;> cases passes

theorem first_frontVerdicts_forward
    (forwards : Verdict.first (frontVerdicts gateway session moments) = some .forward) :
    lacksCertificate gateway session (moments 3) = true := by
  have member := Verdict.stop_mem_of_first forwards
  simp only [frontVerdicts, List.mem_cons, List.not_mem_nil, or_false] at member
  rcases member with probe | challenge | installs | redirects | denies
  · cases found : healthVerdict session.req <;> simp [found] at probe
  · cases found : acmeVerdict session (moments 1) <;> simp [found] at challenge
  · cases found : gateway.process.isInstallerHost (requestHost session.req) <;>
      simp [found] at installs
  · simp only [redirectVerdict] at redirects
    split at redirects
    · next automatic =>
      split at redirects
      · cases redirects
      · split at redirects
        · next uncovered => simp_all [lacksCertificate]
        · cases redirects
    · cases redirects
  · cases found : isDenied gateway.process (requestHost session.req) (moments 4) <;>
      simp [found] at denies

theorem frontStages_forward
    (stopped : FilterChain.run moments (frontStages gateway session) start = (some .forward, final)) :
    lacksCertificate gateway session (moments 3) = true ∧
      final.passage.checks = start.passage.checks := by
  constructor
  · have answered := run_front_fst gateway session moments [] start
    rw [List.append_nil, stopped, run_nil, Option.or_none] at answered
    exact first_frontVerdicts_forward answered.symm
  have final_eq : final = (FilterChain.run moments (frontStages gateway session) start).2 := by
    rw [stopped]
  rw [final_eq]
  apply run_preserves fun state : FilterState => state.passage.checks = start.passage.checks
  · intro stage member moment before kept
    simp only [frontStages, List.mem_cons, List.not_mem_nil, or_false] at member
    rcases member with equal | equal | equal | equal | equal <;> subst equal <;> exact kept
  · rfl

theorem not_forward_of_mem
    (member : stage ∈ resolve session :: routeStages gateway session) (moment : Moment)
    (state : FilterState) : (stage moment state).1 ≠ .stop .forward := by
  rcases List.mem_cons.mp member with rfl | member
  · simp only [resolve]
    split <;> simp
  rcases routeStages_cases member with rfl | rfl | ⟨check, rfl⟩
  · simp [bookkeeping]
  · simp only [cache]
    split
    · split <;> simp
    · simp
  · rw [policyStage_fst]
    cases (check state.ctx moment (state.arrive moment).passage).1 <;> simp

theorem requestFilter_forward
    (filtered : requestFilter gateway session moments world = (.forward, final)) :
    (lacksCertificate gateway session (moments 3) = true ∧ final.passage.checks = []) ∨
    (lacksCertificate gateway session (moments 3) = false ∧
      FilterChain.run (fun index => moments (index + 6)) (routeStages gateway session)
        (resolve session (moments 5) (frontState session moments world)).2 = (none, final)) := by
  simp only [requestFilter] at filtered
  rcases result : FilterChain.run moments (stages gateway session)
      { ctx := earlyRequestFilter session, passage := { world } } with ⟨outcome, reached⟩
  rw [result] at filtered
  cases outcome with
  | none =>
    right
    cases filtered
    rcases run_append_eq_none.mp result with ⟨middle, front, rest⟩
    rcases frontStages_through front with ⟨reachedFront, passes⟩
    rcases run_cons_eq_none.mp rest with ⟨resolved, stepped, through⟩
    subst reachedFront
    constructor
    · exact lacksCertificate_of_next passes
    · have same : resolved = (resolve session (moments 5)
          (frontState session moments world)).2 := (congrArg Prod.snd stepped).symm
      rw [← same]
      exact through
  | some outcome =>
    left
    cases filtered
    rcases run_append_eq_some.mp result with stopped | ⟨middle, -, rest⟩
    · exact frontStages_forward stopped
    have answered : (FilterChain.run (fun index => moments (index + 5))
        (resolve session :: routeStages gateway session) middle).1 = some .forward := by
      rw [show (fun index => moments (index + 5)) =
        (fun index => moments (index + (frontStages gateway session).length)) from rfl, rest]
    rcases exists_stage_of_run answered with ⟨stage, member, moment, before, given⟩
    exact absurd given (not_forward_of_mem member moment before)

/-! ## Forwarded requests -/

theorem enforced_congr (edge : policies.edge = policies'.edge)
    (geoip : policies.geoip = policies'.geoip)
    (security : policies.security = policies'.security) (enforced : Enforced policies checks) :
    Enforced policies' checks := by
  rcases enforced with ⟨auth, rateLimit, geo, waf⟩
  rw [edge] at auth rateLimit
  rw [geoip] at geo
  rw [security] at waf
  exact ⟨auth, rateLimit, geo, waf⟩

/-- Resolving the route loads its policies unless its service has no endpoints. -/
theorem resolve_snd {moment : Moment} {route : Route}
    (matched : moment.router.table.matchRouteEntry (requestHost session.req)
      (Text.before '?' session.req.target) = some route)
    (valid : validAddress route.backend = true) (state : FilterState) :
    let policies := routeMiddleware moment.router.table (requestHost session.req) route
    let after := (resolve session moment state).2
    after.passage.checks = state.passage.checks ∧
    ((lacksEndpoints route.backend (state.arrive moment).passage.world.consul = true ∧
      after.ctx = state.ctx) ∨
    (lacksEndpoints route.backend (state.arrive moment).passage.world.consul = false ∧
      after.ctx.edge = policies.edge ∧ after.ctx.geoip = policies.geoip ∧
      after.ctx.security = policies.security)) := by
  have planned := planRoute_isOk moment.probeTls route.backend
    (routeMiddleware moment.router.table (requestHost session.req) route)
    (upstreamPath (routeMiddleware moment.router.table (requestHost session.req) route)
      session.req.target) (state.arrive moment).passage.world.consul
  rw [plannable, valid, Bool.true_and] at planned
  simp only [resolve, resolveForward_of_match matched]
  split
  · next plan found =>
    rw [found] at planned
    exact ⟨rfl, .inr ⟨by simpa [Except.isOk, Except.toBool] using planned.symm,
      planRoute_policies found⟩⟩
  · next failed =>
    rw [failed] at planned
    exact ⟨rfl, .inl ⟨by simpa [Except.isOk, Except.toBool] using planned.symm, rfl⟩⟩

theorem upstreamPeer_ok (sent : (upstreamPeer session moment state).1 = .ok peer) :
    ∃ plan, (resolveForward moment.probeTls moment.router.table (requestHost session.req)
      session.req.target (state.arrive moment).passage.world.consul).1 = .ok plan := by
  simp only [upstreamPeer] at sent
  split at sent
  · cases sent
  · next plan found => exact ⟨plan, found⟩

/-- A request that is sent to the backend of its route had the route's policies
enforced exactly when there are none, or the filter neither let it through for
want of a certificate nor resolved a service without known endpoints. -/
theorem forwarded_enforced_iff (gateway : Gateway) (session : Session)
    (moments : Nat → Moment) (world : World) {table : RouteTable}
    (fixed : ∀ index, (moments index).router.table = table) {state : FilterState}
    (filtered : requestFilter gateway session moments world = (.forward, state))
    (later : Moment) (unchanged : later.router.table = table) {peer : Peer}
    (sent : (upstreamPeer session later state).1 = .ok peer) :
    ∃ route, table.matchRouteEntry (requestHost session.req)
        (Text.before '?' session.req.target) = some route ∧
      (Enforced (routeMiddleware table (requestHost session.req) route) state.passage.checks ↔
        PolicyFree (routeMiddleware table (requestHost session.req) route) ∨
          (lacksCertificate gateway session (moments 3) = false ∧
            lacksEndpoints route.backend (consulAtFilter session moments world) = false)) := by
  rcases upstreamPeer_ok sent with ⟨plan, resolved⟩
  rw [unchanged] at resolved
  rcases resolveForward_ok resolved with ⟨route, matched, planned⟩
  refine ⟨route, matched, ?_⟩
  have valid : validAddress route.backend = true := by
    have succeeded := congrArg Except.isOk planned
    rw [planRoute_isOk] at succeeded
    exact (Bool.and_eq_true_iff.mp succeeded).1
  rcases requestFilter_forward filtered with ⟨early, unchecked⟩ | ⟨admitted, through⟩
  · rw [unchecked, enforced_nil]
    simp [early]
  have matchedAtFilter : (moments 5).router.table.matchRouteEntry (requestHost session.req)
      (Text.before '?' session.req.target) = some route := by
    rw [fixed]
    exact matched
  have policies := enforced_of_routeStages through
  rcases resolve_snd matchedAtFilter valid (frontState session moments world) with
    ⟨unchecked, ⟨missing, bare⟩ | ⟨known, edge, geoip, security⟩⟩
  · have start : Idle (resolve session (moments 5) (frontState session moments world)).2 :=
      ⟨congrArg RequestCtx.toMiddlewareAction bare, unchecked⟩
    have idle := (run_member (fun before after => Idle before → Idle after) (fun _ => id)
      (fun _ _ _ lower upper => upper ∘ lower)
      (fun stage member => idle_of_mem_routeStages member) through).1 start
    rw [idle.2, enforced_nil]
    simp [consulAtFilter, missing]
  · rw [fixed] at edge geoip security
    have enforced := enforced_congr edge geoip security policies
    exact ⟨fun _ => .inr ⟨admitted, known⟩, fun _ => enforced⟩

def keyedRoute : Route where
  path := "/"
  pathType := .lead
  backend := { address := "10.0.0.1:80", port := 80, useTls := false }

def keyedTable : RouteTable :=
  (RouteTable.fromRoutes (HashMap.empty.insert "a.example" [keyedRoute])).insertEdge
    "a.example" "/" { auth := some (.apiKey "secret") }

def keyedGateway (autoHttps : Bool) : Gateway where
  process := default
  autoHttps
  httpsPort := 443

def plainSession (headers : HeaderMap) : Session where
  req := { method := "GET", uri := { pathAndQuery := "/" }, headers }

def keyedSession : Session :=
  plainSession [("host", Text.asBytes "a.example"), ("x-api-key", Text.asBytes "secret")]

def keyedState : FilterState :=
  (requestFilter (keyedGateway false) keyedSession (fun _ => .ofTable keyedTable) {}).2

theorem keyed_request_enforced :
    Enforced (routeMiddleware keyedTable "a.example" keyedRoute) keyedState.passage.checks := by
  have filtered : requestFilter (keyedGateway false) keyedSession
      (fun _ => .ofTable keyedTable) {} = (.forward, keyedState) :=
    Prod.ext (by decide) rfl
  have sent := Fallible.eq_ok_getD (by decide :
    (upstreamPeer keyedSession (.ofTable keyedTable) keyedState).1.isOk = true) default
  rcases forwarded_enforced_iff (keyedGateway false) keyedSession _ {} (fun _ => rfl) filtered
    (.ofTable keyedTable) rfl sent with ⟨route, matched, exactly⟩
  have found : keyedTable.matchRouteEntry (requestHost keyedSession.req) "/" =
    some keyedRoute := by decide
  cases found.symm.trans matched
  exact exactly.mpr (.inr ⟨by decide, by decide⟩)

/-- A request without a key is forwarded without any check when automatic HTTPS
finds no certificate for its host. -/
theorem keyless_request_forwarded :
    let session := plainSession [("host", Text.asBytes "a.example")]
    let filtered := requestFilter (keyedGateway true) session (fun _ => .ofTable keyedTable) {}
    filtered.1 = .forward ∧ filtered.2.passage.checks = [] ∧
      ((upstreamPeer session (.ofTable keyedTable) filtered.2).1.map Peer.host).toOption =
        some "10.0.0.1".toList ∧
      (keyedTable.matchRouteEntry "a.example" "/").map
        (fun route => (routeMiddleware keyedTable "a.example" route).edge.auth) =
        some (some (.apiKey "secret")) := by
  decide

end Gateway

end PertiskProxy.Proxy
