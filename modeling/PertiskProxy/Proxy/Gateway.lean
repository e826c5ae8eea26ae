import Mathlib.Tactic.FinCases
import PertiskProxy.Proxy.Grpc
import PertiskProxy.Proxy.Plane

/-! The callbacks of one HTTP/1 or HTTP/2 request (`proxy/mod.rs`). -/

namespace PertiskProxy.Proxy

open Edge FilterChain Http Router Security Tls

structure Gateway where
  process : Process
  autoHttps : Bool
  httpsPort : Nat
  enableH3 : Bool := false
  h3Port : Nat := 443

structure RequestClass where
  isGrpc : Bool := false
  isGrpcWeb : Bool := false
  isLongLivedStream : Bool := false
  isWebsocket : Bool := false
  isRegistry : Bool := false
deriving DecidableEq, Inhabited

structure RequestCtx extends MiddlewareAction, RequestClass where
  cacheBody : Bytes := []
  cacheStatus : Nat := 0
  cacheCollect : Bool := false
  cacheKey : Option Text := none
  cacheType : Text := []
  rateClient : Option Text := none
  rateHost : Option Text := none
  logStarted : Option Instant := none
  logUpstream : Option Text := none
  metricsCounted : Bool := false
deriving DecidableEq, Inhabited

namespace RequestCtx

/-- Take over the policies of a plan; only the request class is kept. -/
def withPlan (ctx : RequestCtx) (plan : ForwardPlan) : RequestCtx where
  toMiddlewareAction := plan.middleware
  toRequestClass := ctx.toRequestClass

end RequestCtx

def earlyRequestFilter (session : Session) : RequestCtx where
  forwardClientIp := false
  toRequestClass :=
    let req := session.req
    let (isGrpc, isGrpcWeb) :=
      Grpc.classifyGrpcRequest req.headers req.method req.uri.path (requestHost req)
    let isWebsocket := Grpc.isWebsocketUpgrade req.method req.headers
    { isGrpc
      isGrpcWeb := isGrpc && isGrpcWeb
      isLongLivedStream :=
        Grpc.isLongLivedApiStream req.method req.uri.path req.headers || isWebsocket
      isWebsocket
      isRegistry := Registry.isOciRegistryPath req.uri.path }

/-- The context after the early filter, with what it notes for the log and the
metrics. -/
def arrivalCtx (session : Session) (now : Instant) : RequestCtx :=
  { earlyRequestFilter session with logStarted := some now, metricsCounted := true }

/-- The state of the filter: the context, the shared state, and the generation
of the table whose policies the context holds. -/
structure FilterState where
  ctx : RequestCtx
  passage : Passage
  source : Option Nat := none

/-- What the filter decides: `Ok(false)`, or `Ok(true)` with an answer. -/
inductive Outcome where
  | forward
  | answered (answer : Answer)
deriving DecidableEq

def Outcome.disposition : Outcome → Disposition
  | .forward => .passed
  | .answered answer => answer.disposition

abbrev GatewayStage := Stage Moment FilterState Outcome

namespace FilterState

def arrive (state : FilterState) (moment : Moment) : FilterState :=
  { state with passage := state.passage.arrive moment }

theorem arrive_of_quiet (quiet : moment.interference = id) (state : FilterState) :
    state.arrive moment = state := by
  simp [arrive, Passage.arrive_of_quiet quiet]

end FilterState

def policyStage (check : RequestCtx → PolicyCheck) : GatewayStage := fun moment state =>
  let state := state.arrive moment
  let (verdict, passage) := check state.ctx moment state.passage
  (verdict.map .answered, { state with passage })

theorem policyStage_fst (check : RequestCtx → PolicyCheck) (moment : Moment)
    (state : FilterState) : (policyStage check moment state).1 =
      (check state.ctx moment (state.arrive moment).passage).1.map .answered := rfl

namespace Gateway

section

variable (gateway : Gateway) (session : Session)

def health : GatewayStage :=
  policyStage fun _ => stateless fun _ => healthVerdict session.req

def pendingChallenge (moment : Moment) : Option Text :=
  moment.http01.bind fun store =>
    (Text.stripPrefix session.req.uri.path "/.well-known/acme-challenge/").bind fun rest =>
      let token := Text.trimEndMatches (· == '/') rest
      if token.isEmpty then none else store.get? token

def acmeVerdict (moment : Moment) : Verdict Answer :=
  match pendingChallenge session moment with
  | some body => .stop (.acmeChallenge body)
  | none => .next

def acmeChallenge : GatewayStage :=
  policyStage fun _ => stateless (acmeVerdict session)

def installer : GatewayStage :=
  policyStage fun _ => stateless fun _ =>
    .when (gateway.process.isInstallerHost (requestHost session.req)) .installer

def redirectTarget (host : Text) : Text :=
  let portSuffix := if gateway.httpsPort = 443 then [] else ':' :: Text.ofNat gateway.httpsPort
  "https://".toList ++ host ++ portSuffix ++ session.req.target

def redirectHost : Text :=
  let host := requestHost session.req
  if host.isEmpty then "localhost" else host

def redirectDenied (moment : Moment) : Bool :=
  let host := redirectHost session
  gateway.process.denyEnabled && !host.isEmpty && host != "localhost".toList &&
    !moment.router.table.hasHost host

/-- Send plain HTTP to HTTPS. Without a certificate the request is let through
as it is. -/
def redirectVerdict (moment : Moment) : Verdict Outcome :=
  if gateway.autoHttps && isPlainHttp session then
    let host := redirectHost session
    if redirectDenied gateway session moment then .stop (.answered (.unknownHost 404))
    else if !moment.certs.hasCertForHost host then .stop .forward
    else .stop (.answered (.httpsRedirect (redirectTarget gateway session host)))
  else .next

def redirectHttps : GatewayStage := fun moment state =>
  (redirectVerdict gateway session moment, state.arrive moment)

def denyUnknown : GatewayStage :=
  policyStage fun _ => stateless fun moment =>
    .when (isDenied gateway.process (requestHost session.req) moment)
      (.unknownHost (if isDownstreamTls session then 421 else 404))

/-- Load the policies of the matched route. A failure leaves the context as it
was and is not reported. -/
def resolve : GatewayStage := fun moment state =>
  let state := state.arrive moment
  let world := state.passage.world
  let (result, consul) := resolveForward moment.probeTls moment.router.table
    (requestHost session.req) session.req.target world.consul
  let passage := { state.passage with world := { world with consul } }
  match result with
  | .ok plan =>
    (.next,
      { ctx := state.ctx.withPlan plan, passage, source := some moment.router.generation })
  | .error _ => (.next, { state with passage })

def edgeClient : Text :=
  (sessionClientIp session).getD "-"

def limitErrors : GatewayStage :=
  policyStage fun ctx => checkX4xx (edgeClient session) (requestHost session.req) ctx.edge

def limitRate : GatewayStage :=
  policyStage fun ctx => checkRate (edgeClient session) (requestHost session.req) ctx.edge

def bookkeeping : GatewayStage := fun moment state =>
  let state := state.arrive moment
  (.next,
    { state with
      ctx := { state.ctx with
        rateClient := sessionClientIp session
        rateHost := some (requestHost session.req) } })

def authenticate : GatewayStage :=
  policyStage fun ctx =>
    checkAuth gateway.process (requestHost session.req) session.req ctx.edge

def files : GatewayStage :=
  policyStage fun ctx => stateless (fileVerdict ctx.fileRoot session.req)

def cacheKey : Text :=
  "GET ".toList ++ requestHost session.req ++ session.req.target

def cacheable (ctx : RequestCtx) (globals : EdgeGlobals) : Bool :=
  !ctx.isGrpc && !ctx.isWebsocket && !ctx.isLongLivedStream &&
    session.req.method == "GET".toList && ctx.edge.auth.isNone &&
    cacheEnabled globals ctx.edge

def cache : GatewayStage := fun moment state =>
  let state := state.arrive moment
  if cacheable session state.ctx moment.router.table.globals then
    let (hit, cache) := cacheGet moment.clock.instant (cacheKey session)
      state.passage.world.cache
    let passage := { state.passage with world := { state.passage.world with cache } }
    match hit with
    | some response => (.stop (.answered (.cached response)), { state with passage })
    | none =>
      (.next,
        { state with
          passage
          ctx := { state.ctx with cacheCollect := true, cacheKey := some (cacheKey session) } })
  else (.next, state)

def geoip : GatewayStage :=
  policyStage fun ctx => checkGeoip ctx.geoip (sessionClientIp session)

def captcha : GatewayStage :=
  policyStage fun ctx => stateless
    (captchaVerdict gateway.process queryParam ctx.security session.req
      (sessionClientIp session))

def security : GatewayStage :=
  policyStage fun ctx =>
    checkSecurity gateway.process true ctx.security session.req (sessionClientIp session)

def grpcVerdict (ctx : RequestCtx) : Verdict Answer :=
  if ctx.isGrpc then
    match Grpc.validateDownstream session.req.method session.isHttp2 ctx.isGrpcWeb with
    | .error message => .stop (.grpcError message ctx.isGrpcWeb)
    | .ok () => .next
  else .next

def validateGrpc : GatewayStage :=
  policyStage fun ctx => stateless fun _ => grpcVerdict session ctx

def frontStages : List GatewayStage :=
  [health session, acmeChallenge session, installer gateway session,
    redirectHttps gateway session, denyUnknown gateway session]

def routeStages : List GatewayStage :=
  [limitErrors session, limitRate session, bookkeeping session, authenticate gateway session,
    files session, cache session, geoip session, captcha gateway session,
    security gateway session, validateGrpc session]

def stages : List GatewayStage :=
  frontStages gateway session ++ resolve session :: routeStages gateway session

end

/-- What follows routing is bookkeeping, the cache, and checks of policies. -/
theorem routeStages_cases (member : stage ∈ routeStages gateway session) :
    stage = bookkeeping session ∨ stage = cache session ∨ ∃ check, stage = policyStage check := by
  unfold routeStages at member
  have policy {check} : policyStage check = bookkeeping session ∨
      policyStage check = cache session ∨ ∃ other, policyStage check = policyStage other :=
    .inr (.inr ⟨check, rfl⟩)
  fin_cases member
  exacts [policy, policy, .inl rfl, policy, policy, .inr (.inl rfl), policy, policy, policy,
    policy]

/-- The request filter; stage `k` runs at `moments k`. It reads nothing of what the
early filter notes for the log and the metrics. -/
def requestFilter (gateway : Gateway) (session : Session) (moments : Nat → Moment)
    (world : World) : Outcome × FilterState :=
  let (outcome, state) := FilterChain.run moments (stages gateway session)
    { ctx := earlyRequestFilter session, passage := { world } }
  (outcome.getD .forward, state)

section

variable (gateway : Gateway) (session : Session)

/-- What the stages before routing decide; none of them reads the state. -/
def frontVerdicts (moments : Nat → Moment) : List (Verdict Outcome) :=
  [(healthVerdict session.req).map .answered,
    (acmeVerdict session (moments 1)).map .answered,
    .when (gateway.process.isInstallerHost (requestHost session.req)) (.answered .installer),
    redirectVerdict gateway session (moments 3),
    .when (isDenied gateway.process (requestHost session.req) (moments 4))
      (.answered (.unknownHost (if isDownstreamTls session then 421 else 404)))]

def arriveFront (moments : Nat → Moment) (start : FilterState) : FilterState :=
  [0, 1, 2, 3, 4].foldl (fun state index => state.arrive (moments index)) start

def frontState (moments : Nat → Moment) (world : World) : FilterState :=
  arriveFront moments { ctx := earlyRequestFilter session, passage := { world } }

theorem run_front_fst (moments : Nat → Moment) (rest : List GatewayStage) (start : FilterState) :
    (FilterChain.run moments (frontStages gateway session ++ rest) start).1 =
      (Verdict.first (frontVerdicts gateway session moments)).or
        (FilterChain.run (fun index => moments (index + 5)) rest
          (arriveFront moments start)).1 := by
  simp only [frontStages, List.cons_append, List.nil_append]
  rw [run_cons_fst, run_cons_fst, run_cons_fst, run_cons_fst, run_cons_fst]
  simp only [Verdict.first, frontVerdicts, Option.or_assoc, Option.none_or, health, acmeChallenge,
    installer, denyUnknown, policyStage, stateless, Verdict.map_when]
  rfl

theorem requestFilter_fst (moments : Nat → Moment) (world : World) :
    (requestFilter gateway session moments world).1 =
      ((Verdict.first (frontVerdicts gateway session moments)).or
        (FilterChain.run (fun index => moments (index + 5))
          (resolve session :: routeStages gateway session)
          (frontState session moments world)).1).getD .forward := by
  rw [frontState, ← run_front_fst]
  rfl

theorem resolve_fst (moment : Moment) (state : FilterState) :
    (resolve session moment state).1 = .next := by
  simp only [resolve]
  split <;> rfl

end

end Gateway

/-- Where a request is sent, and the generation of the table that said so. -/
structure Peer where
  host : Text
  port : Nat
  useTls : Bool
  generation : Nat
deriving DecidableEq, Inhabited

/-- Resolve the route again and choose the peer. The context takes over the
plan's policies unless it already has a prefix or headers to apply. -/
def upstreamPeer (session : Session) (moment : Moment) (state : FilterState) :
    Except ForwardError Peer × FilterState :=
  let state := state.arrive moment
  let world := state.passage.world
  let (result, consul) := resolveForward moment.probeTls moment.router.table
    (requestHost session.req) session.req.target world.consul
  let passage := { state.passage with world := { world with consul } }
  match result with
  | .error error => (.error error, { state with passage })
  | .ok plan =>
    let generation := moment.router.generation
    let peer := { host := plan.peerHost, port := plan.peerPort, useTls := plan.useTls,
                  generation }
    let logUpstream := some (plan.peerHost ++ ':' :: Text.ofNat plan.peerPort)
    let ctx := state.ctx
    if ctx.stripPrefix.isNone && ctx.requestHeaders.isEmpty && ctx.responseHeaders.isEmpty then
      (.ok peer,
        { ctx := { ctx.withPlan plan with logUpstream }, passage, source := some generation })
    else (.ok peer, { state with ctx := { ctx with logUpstream }, passage })

/-! The callbacks of one request, interleaved with replacements of the route table. -/

open Gateway

/-- The tables installed so far; the last one is in force. -/
structure Tables where
  earlier : List RouteTable := []
  current : RouteTable

namespace Tables

def generation (tables : Tables) : Nat :=
  tables.earlier.length

def snapshot (tables : Tables) : Snapshot where
  generation := tables.generation
  table := tables.current

def replaceAll (tables : Tables) (table : RouteTable) : Tables where
  earlier := tables.earlier ++ [tables.current]
  current := table

def at? (tables : Tables) (generation : Nat) : Option RouteTable :=
  (tables.earlier ++ [tables.current])[generation]?

theorem at?_generation (tables : Tables) :
    tables.at? tables.generation = some tables.current := by
  simp [at?, generation]

variable {tables : Tables} {index : Nat} {state : FilterState}

theorem at?_replaceAll {generation : Nat} {found : RouteTable}
    (installed : tables.at? generation = some found) (table : RouteTable) :
    (tables.replaceAll table).at? generation = some found := by
  rw [at?, replaceAll, List.getElem?_append_left]
  · exact installed
  · rcases List.getElem?_eq_some_iff.mp installed with ⟨bound, _⟩
    exact bound

end Tables

/-! ## Where policies and peers come from -/

section

variable (session : Session)

def Plans (table : RouteTable) (plan : ForwardPlan) : Prop :=
  ∃ probeTls consul, (resolveForward probeTls table (requestHost session.req)
    session.req.target consul).1 = .ok plan

def PoliciesFrom (table : RouteTable) (policies : MiddlewareAction) : Prop :=
  ∃ plan, Plans session table plan ∧ policies = plan.middleware

def PeerFrom (table : RouteTable) (peer : Peer) : Prop :=
  ∃ plan, Plans session table plan ∧
    peer.host = plan.peerHost ∧ peer.port = plan.peerPort ∧ peer.useTls = plan.useTls

/-- The context holds the policies of its source, or none at all. -/
def Sourced (tables : Tables) (state : FilterState) : Prop :=
  match state.source with
  | none => state.ctx.toMiddlewareAction = (earlyRequestFilter session).toMiddlewareAction
  | some generation => ∃ table, tables.at? generation = some table ∧
      PoliciesFrom session table state.ctx.toMiddlewareAction

/-- The peer, the policies that were enforced, and the policies applied to the
upstream request all come from one installed table. A request for which the
filter found no route had no policies enforced. -/
def OneSnapshot (tables : Tables) (enforced : FilterState) (peer : Peer)
    (applied : FilterState) : Prop :=
  ∃ table, tables.at? peer.generation = some table ∧
    PeerFrom session table peer ∧
    PoliciesFrom session table applied.ctx.toMiddlewareAction ∧
    (PoliciesFrom session table enforced.ctx.toMiddlewareAction ∨
      enforced.source = none ∧
        enforced.ctx.toMiddlewareAction = (earlyRequestFilter session).toMiddlewareAction)

end

/-! ## The system -/

/-- How far a request has come. The state the filter ended in is kept, with the
policies that were enforced. -/
inductive Phase where
  | filtering (index : Nat) (state : FilterState)
  | filtered (index : Nat) (state : FilterState)
  | connected (enforced : FilterState) (peer : Peer) (state : FilterState)
  | sent (enforced : FilterState) (peer : Peer) (state : FilterState)
  | finished

structure System where
  tables : Tables
  phase : Phase

def resolveIndex : Nat := 5

def Phase.resolved : Phase → Bool
  | .filtering index _ | .filtered index _ => resolveIndex < index
  | .connected _ _ _ | .sent _ _ _ | .finished => false

section

variable (gateway : Gateway) (session : Session)

/-- One step: a replacement of the table, a stage of the filter, or one of the
later callbacks. -/
inductive Step : System → System → Prop
  | replaceAll {tables phase} (table : RouteTable) :
      Step ⟨tables, phase⟩ ⟨tables.replaceAll table, phase⟩
  | next {tables index state after stage moment} :
      (gateway.stages session)[index]? = some stage →
      moment.router = tables.snapshot →
      stage moment state = (.next, after) →
      Step ⟨tables, .filtering index state⟩ ⟨tables, .filtering (index + 1) after⟩
  | pass {tables index state after stage moment} :
      (gateway.stages session)[index]? = some stage →
      moment.router = tables.snapshot →
      stage moment state = (.stop .forward, after) →
      Step ⟨tables, .filtering index state⟩ ⟨tables, .filtered index after⟩
  | answer {tables index state after stage moment answer} :
      (gateway.stages session)[index]? = some stage →
      moment.router = tables.snapshot →
      stage moment state = (.stop (.answered answer), after) →
      Step ⟨tables, .filtering index state⟩ ⟨tables, .finished⟩
  | through {tables index state} :
      (gateway.stages session)[index]? = none →
      Step ⟨tables, .filtering index state⟩ ⟨tables, .filtered index state⟩
  | connect {tables index state after moment peer} :
      moment.router = tables.snapshot →
      upstreamPeer session moment state = (.ok peer, after) →
      Step ⟨tables, .filtered index state⟩ ⟨tables, .connected state peer after⟩
  | unreachable {tables index state after moment error} :
      moment.router = tables.snapshot →
      upstreamPeer session moment state = (.error error, after) →
      Step ⟨tables, .filtered index state⟩ ⟨tables, .finished⟩
  | send {tables enforced peer state} :
      Step ⟨tables, .connected enforced peer state⟩ ⟨tables, .sent enforced peer state⟩

def System.start (tables : Tables) (world : World) : System where
  tables := tables
  phase := .filtering 0 { ctx := earlyRequestFilter session, passage := { world } }

def System.Consistent (system : System) : Prop :=
  match system.phase with
  | .connected enforced peer state | .sent enforced peer state =>
    OneSnapshot session system.tables enforced peer state
  | .filtering _ _ | .filtered _ _ | .finished => True

end

/-! ## What a step keeps -/

section

variable {gateway : Gateway} {session : Session}

def KeepsPolicies (stage : GatewayStage) : Prop :=
  ∀ moment state, (stage moment state).2.source = state.source ∧
    (stage moment state).2.ctx.toMiddlewareAction = state.ctx.toMiddlewareAction

theorem policyStage_keepsPolicies (check : RequestCtx → PolicyCheck) :
    KeepsPolicies (policyStage check) := by
  intro moment state
  exact ⟨rfl, rfl⟩

theorem cache_keepsPolicies : KeepsPolicies (cache session) := by
  intro moment state
  simp only [cache]
  split
  · split <;> exact ⟨rfl, rfl⟩
  · exact ⟨rfl, rfl⟩

theorem frontStages_keepPolicies (member : stage ∈ gateway.frontStages session) :
    KeepsPolicies stage := by
  simp only [frontStages, List.mem_cons, List.not_mem_nil, or_false] at member
  rcases member with rfl | rfl | rfl | rfl | rfl
  · exact policyStage_keepsPolicies _
  · exact policyStage_keepsPolicies _
  · exact policyStage_keepsPolicies _
  · intro moment state
    exact ⟨rfl, rfl⟩
  · exact policyStage_keepsPolicies _

theorem routeStages_keepPolicies (member : stage ∈ gateway.routeStages session) :
    KeepsPolicies stage := by
  rcases routeStages_cases member with rfl | rfl | ⟨check, rfl⟩
  · intro moment state
    exact ⟨rfl, rfl⟩
  · exact cache_keepsPolicies
  · exact policyStage_keepsPolicies _

theorem stage_cases (located : (gateway.stages session)[index]? = some stage) :
    index = resolveIndex ∧ stage = resolve session ∨
      index ≠ resolveIndex ∧ KeepsPolicies stage := by
  rcases Nat.lt_trichotomy index resolveIndex with before | equal | behind
  · right
    rw [stages, List.getElem?_append_left before] at located
    exact ⟨by omega, frontStages_keepPolicies (List.mem_of_getElem? located)⟩
  · left
    subst equal
    exact ⟨rfl, (Option.some.inj located).symm⟩
  right
  have shifted : index = 5 + (index - 6 + 1) := by
    simp only [resolveIndex] at behind
    omega
  rw [shifted, stages, List.getElem?_append_right (by simp [frontStages])]
    at located
  simp only [frontStages, List.length_cons, List.length_nil, Nat.add_sub_cancel_left,
    Nat.zero_add, List.getElem?_cons_succ] at located
  exact ⟨by omega, routeStages_keepPolicies (List.mem_of_getElem? located)⟩

theorem resolve_cases (moment : Moment) (state : FilterState) :
    (∃ plan, Plans session moment.router.table plan ∧
      ((resolve session moment state).2.source = some moment.router.generation ∧
        (resolve session moment state).2.ctx.toMiddlewareAction = plan.middleware)) ∨
    ((resolve session moment state).2.source = state.source ∧
      (resolve session moment state).2.ctx.toMiddlewareAction =
        state.ctx.toMiddlewareAction) := by
  simp only [resolve]
  rcases resolved : resolveForward moment.probeTls moment.router.table
    (requestHost session.req) session.req.target (state.arrive moment).passage.world.consul
    with ⟨result, consul⟩
  cases result with
  | error error => exact .inr ⟨rfl, rfl⟩
  | ok plan =>
    left
    exact ⟨plan, ⟨moment.probeTls, _, by rw [resolved]⟩, rfl, rfl⟩

/-- Choosing the peer resolves the route in the loaded table; the context is
replaced unless it has a prefix or headers to apply. -/
theorem upstreamPeer_provenance
    (connected : upstreamPeer session moment state = (.ok peer, after)) :
    peer.generation = moment.router.generation ∧ PeerFrom session moment.router.table peer ∧
      (PoliciesFrom session moment.router.table after.ctx.toMiddlewareAction ∨
        after.ctx.toMiddlewareAction = state.ctx.toMiddlewareAction ∧
          state.ctx.toMiddlewareAction ≠ (earlyRequestFilter session).toMiddlewareAction) := by
  simp only [upstreamPeer] at connected
  rcases resolved : resolveForward moment.probeTls moment.router.table
    (requestHost session.req) session.req.target (state.arrive moment).passage.world.consul
    with ⟨result, consul⟩
  rw [resolved] at connected
  cases result with
  | error error => simp at connected
  | ok plan =>
    have planned : Plans session moment.router.table plan :=
      ⟨moment.probeTls, _, by rw [resolved]⟩
    simp only at connected
    split at connected
    · cases connected
      exact ⟨rfl, ⟨plan, planned, rfl, rfl, rfl⟩, .inl ⟨plan, planned, rfl⟩⟩
    rename_i marked
    cases connected
    refine ⟨rfl, ⟨plan, planned, rfl, rfl, rfl⟩, .inr ⟨rfl, ?_⟩⟩
    intro unmarked
    apply marked
    change (state.ctx.toMiddlewareAction.stripPrefix.isNone &&
      state.ctx.toMiddlewareAction.requestHeaders.isEmpty &&
      state.ctx.toMiddlewareAction.responseHeaders.isEmpty) = true
    rw [unmarked]
    rfl

end

/-! ## Runs -/

section

variable {gateway : Gateway} {session : Session}

/-- Before the peer is chosen, the context has no source until the route is
resolved, and then the table in force. -/
structure Held (session : Session) (tables : Tables) (index : Nat) (state : FilterState) :
    Prop where
  sourced : Sourced session tables state
  unresolved : index ≤ resolveIndex → state.source = none
  current : ∀ generation, state.source = some generation → generation = tables.generation

def System.Sound (session : Session) (system : System) : Prop :=
  match system.phase with
  | .filtering index state | .filtered index state => Held session system.tables index state
  | .connected enforced peer state | .sent enforced peer state =>
    OneSnapshot session system.tables enforced peer state
  | .finished => True

theorem Sourced.congr (sourced : Sourced session tables before)
    (source : after.source = before.source)
    (policies : after.ctx.toMiddlewareAction = before.ctx.toMiddlewareAction) :
    Sourced session tables after := by
  rw [Sourced, source, policies]
  exact sourced

theorem Held.keep (held : Held session tables index before)
    (source : after.source = before.source)
    (policies : after.ctx.toMiddlewareAction = before.ctx.toMiddlewareAction)
    (later : next ≤ resolveIndex → index ≤ resolveIndex) : Held session tables next after where
  sourced := held.sourced.congr source policies
  unresolved := by
    intro early
    rw [source]
    exact held.unresolved (later early)
  current := by
    intro generation found
    exact held.current generation (source ▸ found)

theorem Held.replaceAll
    (held : Held session tables index state) (early : index ≤ resolveIndex)
    (table : RouteTable) : Held session (tables.replaceAll table) index state where
  sourced := by
    have none := held.unresolved early
    have sourced := held.sourced
    rw [Sourced, none] at sourced ⊢
    exact sourced
  unresolved := fun _ => held.unresolved early
  current := by
    intro generation found
    rw [held.unresolved early] at found
    cases found

theorem Held.stage
    {stage : GatewayStage} {moment : Moment} (held : Held session tables index state)
    (located : (gateway.stages session)[index]? = some stage)
    (loaded : moment.router = tables.snapshot) :
    Held session tables (index + 1) (stage moment state).2 := by
  rcases stage_cases located with ⟨position, resolves⟩ | ⟨position, keeps⟩
  · subst resolves
    rcases resolve_cases moment state with ⟨plan, planned, source, policies⟩ | ⟨source, policies⟩
    · rw [loaded] at planned source
      refine ⟨?_, by omega, ?_⟩
      · rw [Sourced, source]
        exact ⟨tables.current, tables.at?_generation, plan, planned, policies⟩
      · intro generation found
        rw [source] at found
        exact (Option.some.inj found).symm
    · exact held.keep source policies (by omega)
  · have kept := keeps moment state
    exact held.keep kept.1 kept.2 (by omega)

theorem Held.pass {after : FilterState}
    {stage : GatewayStage} {moment : Moment} (held : Held session tables index state)
    (located : (gateway.stages session)[index]? = some stage)
    (passed : stage moment state = (.stop .forward, after)) :
    Held session tables index after := by
  rcases stage_cases located with ⟨_, resolves⟩ | ⟨_, keeps⟩
  · have continues := resolve_fst session moment state
    rw [← resolves, passed] at continues
    cases continues
  · have kept := keeps moment state
    rw [passed] at kept
    exact held.keep kept.1 kept.2 id

theorem Held.connect (held : Held session tables index state)
    (loaded : moment.router = tables.snapshot)
    (connected : upstreamPeer session moment state = (.ok peer, after)) :
    OneSnapshot session tables state peer after := by
  rcases upstreamPeer_provenance connected with ⟨generation, chosen, policies⟩
  rw [loaded] at generation chosen policies
  have enforced : PoliciesFrom session tables.current state.ctx.toMiddlewareAction ∨
      state.source = none ∧
        state.ctx.toMiddlewareAction = (earlyRequestFilter session).toMiddlewareAction := by
    have sourced := held.sourced
    cases source : state.source with
    | none =>
      rw [Sourced, source] at sourced
      exact .inr ⟨rfl, sourced⟩
    | some found =>
      rw [Sourced, source] at sourced
      rcases sourced with ⟨table, installed, planned⟩
      rw [held.current found source, Tables.at?_generation] at installed
      cases installed
      exact .inl planned
  refine ⟨tables.current, ?_, chosen, ?_, enforced⟩
  · rw [generation]
    exact tables.at?_generation
  · rcases policies with replaced | ⟨kept, marked⟩
    · exact replaced
    · rw [kept]
      exact enforced.resolve_right fun bare => marked bare.2

theorem OneSnapshot.replaceAll {enforced applied : FilterState} {peer : Peer}
    (one : OneSnapshot session tables enforced peer applied) (table : RouteTable) :
    OneSnapshot session (tables.replaceAll table) enforced peer applied := by
  rcases one with ⟨found, installed, rest⟩
  exact ⟨found, Tables.at?_replaceAll installed table, rest⟩

theorem System.Sound.start (tables : Tables) (world : World) :
    (System.start session tables world).Sound session :=
  ⟨rfl, fun _ => rfl, fun _ found => by cases found⟩

end

/-! A table with an open route, and one that sends the route elsewhere and asks
for a key. -/

end PertiskProxy.Proxy
