import PertiskProxy.Edge.Content
import PertiskProxy.Proxy.Forward
import PertiskProxy.Tls.CertStore

/-! What the Pingora gateway and the two HTTP/3 servers have in common: the process they
run in, the state they share, the answers they give, and the checks of a route's policies.
-/

namespace PertiskProxy.Proxy

open Edge FilterChain GeoIp Http Router Security Tls Text

inductive Plane where
  | pingora
  | quinn
  | quiche
deriving DecidableEq

/-- Settings fixed for the life of the process: from the environment, and whether
it was built as the ingress controller. -/
structure Process where
  platform : Platform
  captchaMac : Mac
  defaultDeny : Option Text := none
  installerHost : Option Text := none
  ingress : Bool := false

instance : Inhabited Process where
  default := { platform := default, captchaMac := default }

namespace Process

def denyEnabled (process : Process) : Bool :=
  match process.defaultDeny with
  | some raw =>
    let value := toAsciiLowercase (trim raw)
    !(value == "0".toList || value == "false".toList || value == "off".toList ||
      value == "no".toList)
  | none => true

def installerHosts (process : Process) : List Text :=
  (((process.installerHost.getD []).splitOn ',').map fun part =>
    toAsciiLowercase (trimEndMatches (· == ':')
      (trimEndMatches (· == '.') (trim part)))).filter fun host =>
        !host.isEmpty && !host.any (· == '/')

def isInstallerHost (process : Process) (host : Text) : Bool :=
  let host := toAsciiLowercase (trimEndMatches (· == '.')
    (trim (before ':' host)))
  !host.isEmpty && process.installerHosts.contains host

end Process

structure World where
  windows : Windows := ∅
  rates : RateMap := ∅
  cache : Cache := {}
  consul : ConsulState := {}

/-- The table a request loads, with the number of tables installed before it. -/
structure Snapshot where
  generation : Nat := 0
  table : RouteTable

/-- What a request sees from outside at one moment, and what other requests did
to the shared state since the moment before. -/
structure Moment where
  router : Snapshot
  certs : CertStore := {}
  http01 : Option (HashMap Text Text) := none
  clock : Clock
  geo : GeoIpEngine
  /-- Whether the service at a URL accepts a host, path, and `Authorization`. -/
  forwardAuth : Text → Text → Text → Option Text → Bool
  readFile : FilePath → Option Bytes
  probeTls : Text → Nat → Bool
  draw : Draw
  interference : World → World := id

def Moment.ofTable (table : RouteTable) : Moment where
  router := { table }
  clock := default
  geo := { country := none, asn := none }
  forwardAuth := fun _ _ _ _ => false
  readFile := fun _ => none
  probeTls := fun _ _ => false
  draw := { a := 1, b := 1, a_range := by decide, b_range := by decide }

/-! ## Answers -/

/-- What becomes of a request: rejected by a policy of its route, turned away for
another reason, answered with content of its route, answered otherwise, or
passed on. -/
inductive Disposition where
  | rejected
  | refused
  | content
  | other
  | passed
deriving DecidableEq

inductive Answer where
  | health (json head : Bool)
  | acmeChallenge (keyAuthorization : Text)
  | installer
  | unknownHost (code : Nat)
  | httpsRedirect (location : Text)
  | noRoute
  | badRequest (message : Text)
  | longLivedStream
  | tooManyErrors
  | tooManyRequests
  | unauthorized (auth : RouteAuth)
  | file (mime : Text) (body : Bytes)
  | fileNotFound
  | cached (response : CachedResponse)
  | geoipBlocked (reason : Text)
  | captchaPassed (setCookie location : Text)
  | captchaFailed (page : ChallengePage)
  | captchaPage (page : ChallengePage)
  | challenged (reason : Text) (page : ChallengePage)
  | forbidden (reason : Text)
  | grpcError (message : Text) (isGrpcWeb : Bool)
deriving DecidableEq

namespace Answer

def status : Answer → Nat
  | .health _ _ | .acmeChallenge _ | .installer | .file _ _ | .captchaPage _
  | .grpcError _ _ => 200
  | .captchaPassed _ _ => 302
  | .httpsRedirect _ => 308
  | .badRequest _ => 400
  | .unauthorized _ => 401
  | .geoipBlocked _ | .captchaFailed _ | .challenged _ _ | .forbidden _ => 403
  | .noRoute | .fileNotFound => 404
  | .longLivedStream => 421
  | .tooManyErrors | .tooManyRequests => 429
  | .unknownHost code => code
  | .cached response =>
    if 100 ≤ response.status ∧ response.status ≤ 999 then response.status else 200

def disposition : Answer → Disposition
  | .tooManyErrors | .tooManyRequests | .unauthorized _ | .geoipBlocked _ | .challenged _ _
  | .forbidden _ => .rejected
  | .unknownHost _ | .noRoute | .badRequest _ | .longLivedStream | .grpcError _ _ => .refused
  | .file _ _ | .cached _ => .content
  | _ => .other

end Answer

def Disposition.of : Option Answer → Disposition
  | some answer => answer.disposition
  | none => .passed

/-! ## Checks -/

inductive Check where
  | x4xx (limit : Nat) (blocked : Bool)
  | rateLimit (limit : Nat) (limited : Bool)
  | auth (auth : RouteAuth) (ok : Bool)
  | geoip (policy : GeoIpPolicy) (decision : Decision)
  | security (policy : SecurityPolicy) (action : SecurityAction)
deriving DecidableEq

structure Passage where
  world : World
  checks : List Check := []

namespace Passage

/-- The passage when a check starts: other requests may have run in between. -/
def arrive (passage : Passage) (moment : Moment) : Passage :=
  { passage with world := moment.interference passage.world }

theorem arrive_of_quiet (quiet : moment.interference = id) (passage : Passage) :
    passage.arrive moment = passage := by
  simp [arrive, quiet]

def record (passage : Passage) (check : Check) : Passage :=
  { passage with checks := passage.checks ++ [check] }

end Passage

/-- A check reads its moment and either lets the request go on or answers it. -/
abbrev PolicyCheck := Moment → Passage → Verdict Answer × Passage

def stateless (verdict : Moment → Verdict Answer) : PolicyCheck := fun moment passage =>
  (verdict moment, passage)

/-! ### Before routing -/

def healthPaths : List Text :=
  ["/api/health", "/health", "/healthz", "/readyz", "/live", "/ready"]

def jsonHealthPaths : List Text :=
  ["/api/health", "/health", "/live", "/ready"]

def isHealthPath (path : Text) : Bool :=
  healthPaths.contains path

def isJsonHealthPath (path : Text) : Bool :=
  jsonHealthPaths.contains path

def isHealthPathBytes (path : Bytes) : Bool :=
  (healthPaths.map asBytes).contains path

def isJsonHealthPathBytes (path : Bytes) : Bool :=
  (jsonHealthPaths.map asBytes).contains path

theorem isHealthPathBytes_asBytes (path : Text) :
    isHealthPathBytes path.asBytes = isHealthPath path := by
  rw [Bool.eq_iff_iff]
  simp only [isHealthPathBytes, isHealthPath, List.contains_iff_mem]
  exact List.mem_map_of_injective asBytes_injective

def isProbe (req : RequestHeader) : Bool :=
  isHealthPath req.uri.path && (req.method == "GET".toList || req.method == "HEAD".toList)

def healthVerdict (req : RequestHeader) : Verdict Answer :=
  .when (isProbe req)
    (.health (isJsonHealthPath req.uri.path) (req.method == "HEAD".toList))

def isDenied (process : Process) (host : Text) (moment : Moment) : Bool :=
  process.denyEnabled && !host.isEmpty && !moment.router.table.hasHost host

/-! ### Edge policy -/

def x4xxTrips (client host : Text) (edge : EdgePolicy) (moment : Moment) (world : World) : Bool :=
  x4xxBlocked moment.clock.unixSecs client host edge.x4xxLimitRps world.windows

def checkX4xx (client host : Text) (edge : EdgePolicy) : PolicyCheck := fun moment passage =>
  if edge.x4xxLimitRps > 0 then
    let blocked := x4xxTrips client host edge moment passage.world
    (.when blocked .tooManyErrors, passage.record (.x4xx edge.x4xxLimitRps blocked))
  else (.next, passage)

/-- Count the request, when there is a limit, and reject it above the limit. -/
def checkRate (client host : Text) (edge : EdgePolicy) : PolicyCheck := fun moment passage =>
  if edge.rateLimitRps > 0 then
    let (limited, windows) := rateLimited moment.clock.unixSecs (requestKey client host)
      edge.rateLimitRps passage.world.windows
    (.when limited .tooManyRequests,
      { passage with world := { passage.world with windows } }.record
        (.rateLimit edge.rateLimitRps limited))
  else (.next, passage)

def authOk (process : Process) (moment : Moment) (host : Text) (req : RequestHeader)
    (auth : RouteAuth) : Bool :=
  match auth with
  | .forward url =>
    moment.forwardAuth url host req.uri.path (req.headers.getStr "authorization")
  | other =>
    authHeaderOk process.platform moment.clock.unixSecs other req.headers
      (req.uri.query.getD [])

def checkAuth (process : Process) (host : Text) (req : RequestHeader) (edge : EdgePolicy) :
    PolicyCheck := fun moment passage =>
  match edge.auth with
  | some auth =>
    let ok := authOk process moment host req auth
    (.when (!ok) (.unauthorized auth), passage.record (.auth auth ok))
  | none => (.next, passage)

/-! ### Files -/

def readableFile (root path : Text) (moment : Moment) : Option (FilePath × Bytes) :=
  (safeFile root path).bind fun file => (moment.readFile file).map fun body => (file, body)

def fileVerdict (fileRoot : Option Text) (req : RequestHeader) (moment : Moment) :
    Verdict Answer :=
  match fileRoot with
  | some root =>
    match readableFile root req.uri.path moment with
    | some (file, body) => .stop (.file (guessMime file) body)
    | none => .stop .fileNotFound
  | none => .next

/-! ### GeoIP and security -/

def geoipReason : Decision → Text
  | .allow => []
  | .blockCountry => "geoip-country"
  | .blockAsn => "geoip-asn"

def checkGeoip (policy : GeoIpPolicy) (clientIp : Option Text) : PolicyCheck :=
  fun moment passage =>
    if policy.isActive then
      let decision := moment.geo.evaluateIp policy clientIp
      (.when (decision ≠ .allow) (.geoipBlocked (geoipReason decision)),
        passage.record (.geoip policy decision))
    else (.next, passage)

/-- The captcha endpoints, with the plane's own decoder of query parameters. -/
def captchaVerdict (process : Process) (param : Text → Text → Option Text)
    (policy : SecurityPolicy) (req : RequestHeader) (clientIp : Option Text)
    (moment : Moment) : Verdict Answer :=
  let query := req.uri.query.getD []
  let next := param query "next"
  let now := moment.clock.unixSecs
  let page := challengePage process.captchaMac now moment.draw (next.getD "/")
  if isCaptchaPath req.uri.path then
    let ttl := if policy.captcha.enabled then policy.captcha.cookieTtlSecs else 86400
    if req.uri.path == captchaVerifyPath then
      match verifyAndPassCookie process.captchaMac now (param query "token")
          (param query "answer") next clientIp ttl with
      | .ok (setCookie, location) => .stop (.captchaPassed setCookie location)
      | .error _ => .stop (.captchaFailed (page "retry"))
    else .stop (.captchaPage (page "check"))
  else .next

def securityView (req : RequestHeader) (clientIp : Option Text) : RequestView where
  method := req.method
  path := req.uri.path
  query := req.uri.query.getD []
  userAgent := req.headers.getStr "user-agent"
  accept := req.headers.getStr "accept"
  acceptLanguage := req.headers.getStr "accept-language"
  cookie := req.headers.getStr "cookie"
  clientIp := clientIp

def challengeNext (req : RequestHeader) : Text :=
  let query := req.uri.query.getD []
  if query.isEmpty then req.uri.path else req.uri.path ++ '?' :: query

/-- The answer to a challenge decision: a page, or on the plane without pages
the answer to a block. -/
def challengeAnswer (process : Process) (pages : Bool) (req : RequestHeader)
    (reason : Text) (moment : Moment) : Answer :=
  if pages then
    .challenged reason (challengePage process.captchaMac moment.clock.unixSecs moment.draw
      (challengeNext req) reason)
  else .forbidden reason

def checkSecurity (process : Process) (pages : Bool) (policy : SecurityPolicy)
    (req : RequestHeader) (clientIp : Option Text) : PolicyCheck := fun moment passage =>
  if policy.isActive then
    let (decision, rates) := evaluate process.captchaMac moment.clock policy
      (securityView req clientIp) passage.world.rates
    let verdict := match decision.action with
      | .allow | .log => .next
      | .challenge => .stop (challengeAnswer process pages req decision.reason moment)
      | .block => .stop (.forbidden decision.reason)
    (verdict,
      { passage with world := { passage.world with rates } }.record
        (.security policy decision.action))
  else (.next, passage)

/-! ## What the checks decide -/

def rateTrips (client host : Text) (edge : EdgePolicy) (moment : Moment) (world : World) : Bool :=
  (rateLimited moment.clock.unixSecs (requestKey client host) edge.rateLimitRps
    world.windows).1

def authTrips (process : Process) (host : Text) (req : RequestHeader) (edge : EdgePolicy)
    (moment : Moment) : Bool :=
  edge.auth.any fun auth => !authOk process moment host req auth

def geoipTrips (policy : GeoIpPolicy) (clientIp : Option Text) (moment : Moment) : Bool :=
  moment.geo.evaluateIp policy clientIp ≠ .allow

def securityTrips (process : Process) (policy : SecurityPolicy) (req : RequestHeader)
    (clientIp : Option Text) (moment : Moment) (world : World) : Bool :=
  let action := (evaluate process.captchaMac moment.clock policy (securityView req clientIp)
    world.rates).1.action
  action = .challenge ∨ action = .block

/-- A verdict that stops exactly under a condition, then with a policy rejection. -/
def RejectsWhen (verdict : Verdict Answer) (condition : Bool) : Prop :=
  (condition = true → ∃ answer, verdict = .stop answer ∧ answer.disposition = .rejected) ∧
    (condition = false → verdict = .next)

theorem rejectsWhen_when (rejects : answer.disposition = .rejected) :
    RejectsWhen (.when condition answer) condition := by
  cases condition with
  | true => exact ⟨fun _ => ⟨answer, rfl, rejects⟩, nofun⟩
  | false => exact ⟨nofun, fun _ => rfl⟩

open Disposition

theorem disposition_first_of_rejects (rejects : RejectsWhen verdict condition)
    (rest : List (Verdict Answer)) : of (Verdict.first (verdict :: rest)) =
      if condition then .rejected else of (Verdict.first rest) := by
  cases condition with
  | true =>
    rcases rejects.1 rfl with ⟨answer, stops, rejected⟩
    simp [Verdict.first_cons, stops, of, rejected]
  | false => simp [Verdict.first_cons, rejects.2 rfl]

section

variable (process : Process) (client host : Text) (edge : EdgePolicy) (req : RequestHeader)
  (clientIp : Option Text) (moment : Moment) (passage : Passage)

theorem checkX4xx_rejects : RejectsWhen (checkX4xx client host edge moment passage).1
      (x4xxTrips client host edge moment passage.world) := by
  by_cases limited : edge.x4xxLimitRps > 0
  · simp only [checkX4xx, limited, if_true]
    exact rejectsWhen_when rfl
  · have unlimited : edge.x4xxLimitRps = 0 := by omega
    simp [checkX4xx, x4xxTrips, unlimited, RejectsWhen]

theorem checkRate_rejects : RejectsWhen (checkRate client host edge moment passage).1
      (rateTrips client host edge moment passage.world) := by
  by_cases limited : edge.rateLimitRps > 0
  · simp only [checkRate, limited, if_true]
    exact rejectsWhen_when rfl
  · have unlimited : edge.rateLimitRps = 0 := by omega
    simp [checkRate, rateTrips, unlimited, RejectsWhen]

theorem checkAuth_rejects : RejectsWhen (checkAuth process host req edge moment passage).1
      (authTrips process host req edge moment) := by
  cases configured : edge.auth with
  | none => simp [checkAuth, authTrips, configured, RejectsWhen]
  | some auth =>
    simp only [checkAuth, authTrips, configured, Option.any_some]
    exact rejectsWhen_when rfl

theorem checkGeoip_rejects (policy : GeoIpPolicy) :
    RejectsWhen (checkGeoip policy clientIp moment passage).1
      (geoipTrips policy clientIp moment) := by
  cases active : policy.isActive with
  | true =>
    simp only [checkGeoip, active, if_true]
    exact rejectsWhen_when rfl
  | false =>
    simp [checkGeoip, active, geoipTrips, GeoIpEngine.evaluateIp_of_inactive active, RejectsWhen]

theorem checkSecurity_rejects (pages : Bool) (policy : SecurityPolicy) :
    RejectsWhen (checkSecurity process pages policy req clientIp moment passage).1
      (securityTrips process policy req clientIp moment passage.world) := by
  cases active : policy.isActive with
  | true =>
    simp only [checkSecurity, active, if_true, securityTrips]
    cases (evaluate process.captchaMac moment.clock policy (securityView req clientIp)
      passage.world.rates).1.action with
    | allow | log => simp [RejectsWhen]
    | challenge => cases pages <;> simp [RejectsWhen, challengeAnswer, Answer.disposition]
    | block => simp [RejectsWhen, Answer.disposition]
  | false => simp [checkSecurity, active, securityTrips, evaluate_of_inactive active, RejectsWhen]

@[simp] theorem checkX4xx_world :
    (checkX4xx client host edge moment passage).2.world = passage.world := by
  simp only [checkX4xx]
  split <;> rfl

@[simp] theorem checkRate_rates :
    (checkRate client host edge moment passage).2.world.rates = passage.world.rates := by
  simp only [checkRate]
  split <;> rfl

@[simp] theorem checkRate_cache :
    (checkRate client host edge moment passage).2.world.cache = passage.world.cache := by
  simp only [checkRate]
  split <;> rfl

@[simp] theorem checkAuth_world :
    (checkAuth process host req edge moment passage).2.world = passage.world := by
  simp only [checkAuth]
  split <;> rfl

@[simp] theorem checkGeoip_world (policy : GeoIpPolicy) :
    (checkGeoip policy clientIp moment passage).2.world = passage.world := by
  simp only [checkGeoip]
  split <;> rfl

theorem disposition_first_fileVerdict (fileRoot : Option Text) (rest : List (Verdict Answer)) :
    of (Verdict.first (fileVerdict fileRoot req moment :: rest)) =
      match fileRoot with
      | some root =>
        if (readableFile root req.uri.path moment).isSome then .content else .other
      | none => of (Verdict.first rest) := by
  cases fileRoot with
  | none => simp [Verdict.first_cons, fileVerdict]
  | some root =>
    cases found : readableFile root req.uri.path moment <;>
      simp [Verdict.first_cons, fileVerdict, found, of, Answer.disposition]

theorem disposition_first_captchaVerdict (param : Text → Text → Option Text)
    (policy : SecurityPolicy) (rest : List (Verdict Answer)) : of (Verdict.first
        (captchaVerdict process param policy req clientIp moment :: rest)) =
      if isCaptchaPath req.uri.path then .other else of (Verdict.first rest) := by
  cases endpoint : isCaptchaPath req.uri.path with
  | false => simp [Verdict.first_cons, captchaVerdict, endpoint]
  | true =>
    simp only [Verdict.first_cons, captchaVerdict, endpoint, if_true]
    split
    · split <;> rfl
    · rfl

end

end PertiskProxy.Proxy
