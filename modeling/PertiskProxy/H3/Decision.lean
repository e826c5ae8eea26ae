import PertiskProxy.H3.Server

/-! The disposition of a request in closed form, for both servers. -/

namespace PertiskProxy.H3

open Edge FilterChain Http Proxy Router Security Verdict

section

variable (front : List PolicyCheck) (host target : Text)
  (policies : MiddlewareAction → List PolicyCheck) (moments : Nat → Moment) (world : World)

/-- What the resolution of the route finds, had no check before it stopped. -/
def beforeRoute : Passage :=
  (reach moments (front.map checkStage) { world }).arrive (moments front.length)

/-- The resolution may move the round-robin counter of the endpoints. -/
def afterRoute : Passage :=
  let moment := moments front.length
  let before := beforeRoute front moments world
  { before with
    world := { before.world with
      consul := (resolveForward moment.probeTls moment.router.table host target
        before.world.consul).2 } }

def policyDisposition (action : MiddlewareAction) : Disposition :=
  .of (first (verdicts (fun index => moments (index + front.length + 1))
    ((policies action).map checkStage) (afterRoute front host target moments world)))

theorem serve_eq : (serve front host target policies moments world).1.disposition =
      match first (verdicts moments (front.map checkStage) { world }) with
      | some answer => answer.disposition
      | none =>
        match (resolveForward (moments front.length).probeTls
            (moments front.length).router.table host target
            (beforeRoute front moments world).world.consul).1 with
        | .error _ => .refused
        | .ok plan =>
          policyDisposition front host target policies moments world plan.middleware := by
  rw [← run_fst]
  simp only [serve, runChecks]
  rcases passed : FilterChain.run moments (front.map checkStage) { world } with ⟨answer, passage⟩
  cases answer with
  | some answer => rfl
  | none =>
    have reached := reach_of_run passed
    subst reached
    simp only [policyDisposition, ← run_fst, beforeRoute, afterRoute]
    rcases resolveForward (moments front.length).probeTls (moments front.length).router.table
      host target ((reach moments (front.map checkStage) { world }).arrive
        (moments front.length)).world.consul with ⟨result, consul⟩
    cases result with
    | error _ => rfl
    | ok plan =>
      dsimp only
      rcases FilterChain.run (fun index => moments (index + front.length + 1))
        ((policies plan.middleware).map checkStage) _ with ⟨answer, final⟩
      cases answer <;> rfl

def routeDisposition : Disposition :=
  let table := (moments front.length).router.table
  match table.matchRouteEntry host (Text.before '?' target) with
  | some route =>
    if plannable route.backend (beforeRoute front moments world).world.consul then
      policyDisposition front host target policies moments world (routeAction table host route)
    else .refused
  | none => .refused

theorem serve_disposition : (serve front host target policies moments world).1.disposition =
      ((first (verdicts moments (front.map checkStage) { world })).map Answer.disposition).getD
          (routeDisposition front host target policies moments world) := by
  rw [serve_eq]
  cases first (verdicts moments (front.map checkStage) { world }) with
  | some answer => rfl
  | none =>
    simp only [routeDisposition, Option.map_none, Option.getD_none]
    cases matched : (moments front.length).router.table.matchRouteEntry host
        (Text.before '?' target) with
    | none => simp [resolveForward, matched]
    | some route =>
      rw [resolveForward_of_match matched]
      dsimp only
      rw [← planRoute_isOk]
      split
      · next failed =>
        rw [failed]
        rfl
      · next plan planned =>
        rw [planned, planRoute_middleware planned]
        rfl

end

/-! ## Quinn -/

namespace Quinn

variable (process : Process) (incoming : Incoming) (moments : Nat → Moment) (world : World)

def frontDisposition : Option Disposition :=
  let req := incoming.req
  if isProbe req then some .other
  else if Grpc.isH3IncompatibleRequest req.headers req.method req.uri.path then some .refused
  else if isDenied process (requestHost req) (moments 2) then some .refused
  else none

/-- What a check of the route finds, had none before it stopped. -/
def passageAt (action : MiddlewareAction) (index : Nat) : Passage :=
  (reach (fun later => moments (later + 4))
    (((policies process incoming action).map checkStage).take index)
    (afterRoute (front process incoming) (requestHost incoming.req) incoming.req.target
      moments world)).arrive (moments (index + 4))

def edgeRejects (action : MiddlewareAction) : Bool :=
  let client := incoming.remote.toText
  let host := requestHost incoming.req
  let found := passageAt process incoming moments world action
  x4xxTrips client host action.edge (moments 4) (found 0).world ||
    rateTrips client host action.edge (moments 5) (found 1).world ||
    authTrips process host incoming.req action.edge (moments 6)

def actionDisposition (action : MiddlewareAction) : Disposition :=
  let req := incoming.req
  let found := passageAt process incoming moments world action
  if edgeRejects process incoming moments world action then .rejected
  else
    match action.fileRoot with
    | some root =>
      if (readableFile root req.uri.path (moments 7)).isSome then .content else .other
    | none =>
      if geoipTrips action.geoip (clientIp incoming) (moments 8) then .rejected
      else if isCaptchaPath req.uri.path then .other
      else if securityTrips process action.security req (clientIp incoming) (moments 10)
        (found 6).world then .rejected
      else .passed

theorem policyDisposition_eq (action : MiddlewareAction) :
    policyDisposition (front process incoming) (requestHost incoming.req) incoming.req.target
        (policies process incoming) moments world action =
      actionDisposition process incoming moments world action := by
  let found := passageAt process incoming moments world action
  let host := requestHost incoming.req
  let client := incoming.remote.toText
  have listed : verdicts (fun index => moments (index + 4))
      ((policies process incoming action).map checkStage)
      (afterRoute (front process incoming) (requestHost incoming.req) incoming.req.target
        moments world) =
      [(checkX4xx client host action.edge (moments 4) (found 0)).1,
        (checkRate client host action.edge (moments 5) (found 1)).1,
        (checkAuth process host incoming.req action.edge (moments 6) (found 2)).1,
        fileVerdict action.fileRoot incoming.req (moments 7),
        (checkGeoip action.geoip (clientIp incoming) (moments 8) (found 4)).1,
        captchaVerdict process h3QueryParam action.security incoming.req (clientIp incoming)
          (moments 9),
        (checkSecurity process true action.security incoming.req (clientIp incoming)
          (moments 10) (found 6)).1] := by
    rw [verdicts_eq_mapIdx, policies]
    simp only [List.map_cons, List.map_nil, List.mapIdx_cons, List.mapIdx_nil, checkStage,
      stateless, found, passageAt, policies]
    rfl
  have unfolded : policyDisposition (front process incoming) (requestHost incoming.req)
      incoming.req.target (policies process incoming) moments world action =
      .of (first (verdicts (fun index => moments (index + 4))
        ((policies process incoming action).map checkStage)
        (afterRoute (front process incoming) (requestHost incoming.req) incoming.req.target
          moments world))) := rfl
  rw [unfolded, listed, disposition_first_of_rejects (checkX4xx_rejects ..),
    disposition_first_of_rejects (checkRate_rejects ..),
    disposition_first_of_rejects (checkAuth_rejects ..), disposition_first_fileVerdict,
    disposition_first_of_rejects (checkGeoip_rejects ..), disposition_first_captchaVerdict,
    disposition_first_of_rejects (checkSecurity_rejects ..)]
  cases root : action.fileRoot <;>
    simp only [actionDisposition, edgeRejects, root, Bool.or_eq_true, ite_or] <;> rfl

def consulAtRoute : ConsulState :=
  (beforeRoute (front process incoming) moments world).world.consul

theorem disposition_front :
    (first (verdicts moments ((front process incoming).map checkStage) { world })).map
        Answer.disposition = frontDisposition process incoming moments := by
  have listed : verdicts moments ((front process incoming).map checkStage) { world } =
      [healthVerdict incoming.req, incompatibleVerdict incoming.req,
        .when (isDenied process (requestHost incoming.req) (moments 2)) (.unknownHost 404)] := rfl
  rw [listed]
  simp only [healthVerdict, incompatibleVerdict, first_cons, first_nil, frontDisposition]
  split_ifs <;> simp_all [Answer.disposition]

theorem handleRequest_disposition : (handleRequest process incoming moments world).1.disposition =
      (frontDisposition process incoming moments).getD
        (match (moments 3).router.table.matchRouteEntry (requestHost incoming.req)
            (Text.before '?' incoming.req.target) with
        | some route =>
          if plannable route.backend (consulAtRoute process incoming moments world) then
            actionDisposition process incoming moments world
              (routeAction (moments 3).router.table (requestHost incoming.req) route)
          else .refused
        | none => .refused) := by
  rw [handleRequest, serve_disposition, disposition_front]
  simp only [routeDisposition, policyDisposition_eq]
  rfl

section

variable {moment : Moment} (quiet : moment.interference = id)
include quiet

theorem consulAtRoute_of_quiet :
    consulAtRoute process incoming (fun _ => moment) world = world.consul := by
  simp [consulAtRoute, beforeRoute, front, reach, checkStage, stateless,
    Passage.arrive_of_quiet quiet]

theorem afterRoute_of_quiet :
    ∃ consul, (afterRoute (front process incoming) (requestHost incoming.req)
      incoming.req.target (fun _ => moment) world).world = { world with consul } := by
  simp [afterRoute, beforeRoute, front, reach, checkStage, stateless,
    Passage.arrive_of_quiet quiet]

theorem passageAt_windows (action : MiddlewareAction) :
    (passageAt process incoming (fun _ => moment) world action 0).world.windows = world.windows ∧
      (passageAt process incoming (fun _ => moment) world action 1).world.windows =
        world.windows := by
  rcases afterRoute_of_quiet process incoming world quiet with ⟨consul, resolved⟩
  simp [passageAt, policies, reach, checkStage, Passage.arrive_of_quiet quiet, resolved]

theorem passageAt_rates (action : MiddlewareAction) :
    (passageAt process incoming (fun _ => moment) world action 6).world.rates =
      world.rates := by
  rcases afterRoute_of_quiet process incoming world quiet with ⟨consul, resolved⟩
  simp [passageAt, policies, reach, checkStage, stateless, Passage.arrive_of_quiet quiet,
    resolved]

end

end Quinn

/-! ## quiche -/

namespace Quiche

variable (process : Process) (http : HttpParsers) (fields : Fields) (req : RequestHeader)
  (moments : Nat → Moment) (world : World)

abbrev requestFront : List PolicyCheck :=
  front process fields ++ [stateless fun _ => incompatibleVerdict req]

def frontDisposition : Option Disposition :=
  if matchesRequest fields then some .other
  else if authorityDenied process fields (moments 1) then some .refused
  else if Grpc.isH3IncompatibleRequest req.headers req.method req.uri.path then some .refused
  else none

def passageAtSecurity (action : MiddlewareAction) : Passage :=
  ((checkStage (checkGeoip action.geoip (clientIp req)) (moments 4)
    (afterRoute (requestFront process fields req) (requestHost req) req.target moments
      world)).2).arrive (moments 5)

def actionDisposition (action : MiddlewareAction) : Disposition :=
  if geoipTrips action.geoip (clientIp req) (moments 4) then .rejected
  else if securityTrips process action.security req (clientIp req) (moments 5)
    (passageAtSecurity process fields req moments world action).world then .rejected
  else .passed

theorem policyDisposition_eq (action : MiddlewareAction) :
    policyDisposition (requestFront process fields req) (requestHost req) req.target
        (policies process req) moments world action =
      actionDisposition process fields req moments world action := by
  have unfolded : policyDisposition (requestFront process fields req) (requestHost req)
      req.target (policies process req) moments world action =
      .of (first
        [(checkGeoip action.geoip (clientIp req) (moments 4)
            ((afterRoute (requestFront process fields req) (requestHost req) req.target moments
              world).arrive (moments 4))).1,
          (checkSecurity process false action.security req (clientIp req) (moments 5)
            (passageAtSecurity process fields req moments world action)).1]) := rfl
  rw [unfolded, disposition_first_of_rejects (checkGeoip_rejects ..),
    disposition_first_of_rejects (checkSecurity_rejects ..)]
  rfl

def consulAtRoute : ConsulState :=
  (beforeRoute (requestFront process fields req) moments world).world.consul

theorem disposition_probe : (probeVerdict fields).answer.map Answer.disposition =
      if matchesRequest fields then some .other else none := by
  cases found : pseudoMethodPath fields with
  | none => simp [probeVerdict, matchesRequest, found]
  | some pair =>
    simp only [probeVerdict, found]
    cases matchesRequest fields <;> rfl

theorem disposition_front :
    (first (verdicts moments ((requestFront process fields req).map checkStage)
        { world })).map Answer.disposition = frontDisposition process fields req moments := by
  have listed : verdicts moments ((requestFront process fields req).map checkStage) { world } =
      [probeVerdict fields, .when (authorityDenied process fields (moments 1)) (.unknownHost 421),
        incompatibleVerdict req] := rfl
  rw [listed, first_cons, Option.map_or, disposition_probe]
  simp only [incompatibleVerdict, first_cons, first_nil, frontDisposition]
  split_ifs <;> simp_all [Answer.disposition]

theorem handleRequest_disposition {req : RequestHeader}
    (converted : h3ToRequest http fields = .ok req) :
    (handleRequest process http fields moments world).1.disposition =
      (frontDisposition process fields req moments).getD
        (match (moments 3).router.table.matchRouteEntry (requestHost req)
            (Text.before '?' req.target) with
        | some route =>
          if plannable route.backend (consulAtRoute process fields req moments world) then
            actionDisposition process fields req moments world
              (routeAction (moments 3).router.table (requestHost req) route)
          else .refused
        | none => .refused) := by
  simp only [handleRequest, converted]
  rw [serve_disposition, disposition_front]
  simp only [routeDisposition, policyDisposition_eq]
  rfl

section

variable {moment : Moment} (quiet : moment.interference = id)
include quiet

theorem consulAtRoute_of_quiet :
    consulAtRoute process fields req (fun _ => moment) world = world.consul := by
  simp [consulAtRoute, beforeRoute, front, reach, checkStage, stateless,
    Passage.arrive_of_quiet quiet]

theorem passageAtSecurity_rates (action : MiddlewareAction) :
    (passageAtSecurity process fields req (fun _ => moment) world action).world.rates =
      world.rates := by
  simp [passageAtSecurity, afterRoute, beforeRoute, front, reach, checkStage, stateless,
    Passage.arrive_of_quiet quiet]

end

end Quiche

end PertiskProxy.H3
