import PertiskProxy.Proxy.Footprint
import PertiskProxy.Proxy.Grpc
import PertiskProxy.Proxy.Plane

/-! Requests as the quiche server receives them (`h3/headers.rs`): a list of raw fields,
pseudo-header fields included, and the request they are converted to. -/

namespace PertiskProxy.H3

open Http

abbrev Fields := List (Bytes × Bytes)

def pseudoAuthority (fields : Fields) : Option Bytes :=
  (fields.find? fun field => field.1 == Text.asBytes ":authority").map fun field =>
    field.2.takeWhile (· != 58)

def lastValue (fields : Fields) (name : Text) : Option Bytes :=
  (fields.findRev? fun field => field.1 == name.asBytes).map Prod.snd

def pseudoMethodPath (fields : Fields) : Option (Bytes × Bytes) := do
  let method ← lastValue fields ":method"
  let path ← lastValue fields ":path"
  return (method, path.takeWhile (· != 63))

structure HttpParsers where
  method : Bytes → Except Text Text
  scheme : Bytes → Except Text Text
  authority : Bytes → Except Text Text
  pathAndQuery : Bytes → Except Text Text
  headerName : Bytes → Except Text Text
  headerValue : Bytes → Except Text Bytes
  /-- `uri::Builder::build` of a scheme, an authority, and a path with query. -/
  uri : Option Text → Option Text → Option Text → Except Text Uri

structure UriParts where
  scheme : Option Text := none
  authority : Option Text := none
  pathAndQuery : Option Text := none

/-- The builders of the target and of the request. A bad part of the target
shows only when it is built. -/
structure RequestBuilder where
  method : Text := "GET"
  uri : Except Text UriParts := .ok {}
  headers : HeaderMap := []

variable (http : HttpParsers)

def addField (builder : RequestBuilder) (field : Bytes × Bytes) :
    Except Text RequestBuilder := do
  let (name, value) := field
  if name.head? = some 58 then
    if name = Text.asBytes ":method" then
      return { builder with method := ← http.method value }
    else if name = Text.asBytes ":scheme" then
      return { builder with
        uri := builder.uri.bind fun parts =>
          (http.scheme value).map fun scheme => { parts with scheme := some scheme } }
    else if name = Text.asBytes ":authority" then
      let host ← http.headerValue value
      return { builder with
        uri := builder.uri.bind fun parts =>
          (http.authority host).map fun authority => { parts with authority := some authority }
        headers := builder.headers ++ [("host".toList, host)] }
    else if name = Text.asBytes ":path" then
      let path ← http.pathAndQuery value
      return { builder with
        uri := builder.uri.map fun parts => { parts with pathAndQuery := some path } }
    else return builder
  else
    let header := (← http.headerName name, ← http.headerValue value)
    return { builder with headers := builder.headers ++ [header] }

def h3ToRequest (fields : Fields) : Except Text RequestHeader := do
  let builder ← fields.foldlM (addField http) {}
  let parts ← builder.uri
  let uri ← http.uri parts.scheme parts.authority parts.pathAndQuery
  return { method := builder.method, uri, headers := builder.headers }

/-! The two HTTP/3 data planes, `h3/quinn_server.rs` and `h3/server.rs`. -/

open Edge FilterChain Net Proxy Router Security

inductive Outcome where
  | forwarded (plan : ForwardPlan)
  | answered (answer : Answer)

def Outcome.disposition : Outcome → Disposition
  | .forwarded _ => .passed
  | .answered answer => answer.disposition

def checkStage (check : PolicyCheck) : Stage Moment Passage Answer := fun moment passage =>
  check moment (passage.arrive moment)

def runChecks (moments : Nat → Moment) (checks : List PolicyCheck) (passage : Passage) :
    Option Answer × Passage :=
  FilterChain.run moments (checks.map checkStage) passage

def serve (front : List PolicyCheck) (host target : Text)
    (policies : MiddlewareAction → List PolicyCheck) (moments : Nat → Moment) (world : World) :
    Outcome × Passage :=
  match runChecks moments front { world } with
  | (some answer, passage) => (.answered answer, passage)
  | (none, passage) =>
    let moment := moments front.length
    let passage := passage.arrive moment
    let (result, consul) := resolveForward moment.probeTls moment.router.table host target
      passage.world.consul
    let passage := { passage with world := { passage.world with consul } }
    match result with
    | .error _ => (.answered .noRoute, passage)
    | .ok plan =>
      match runChecks (fun index => moments (index + front.length + 1))
          (policies plan.middleware) passage with
      | (some answer, passage) => (.answered answer, passage)
      | (none, passage) => (.forwarded plan, passage)

/-- Requests that HTTP/3 cannot proxy are sent back to HTTP/2. -/
def incompatibleVerdict (req : RequestHeader) : Verdict Answer :=
  .when (Grpc.isH3IncompatibleRequest req.headers req.method req.uri.path) .longLivedStream

namespace Quinn

structure Incoming where
  req : RequestHeader
  remote : IpAddr

def clientIp (incoming : Incoming) : Option Text :=
  resolveClientIp (some incoming.remote.toText)
    (incoming.req.headers.getStr "x-forwarded-for") (incoming.req.headers.getStr "x-real-ip")

variable (process : Process) (incoming : Incoming)

def front : List PolicyCheck :=
  let req := incoming.req
  [stateless fun _ => healthVerdict req,
    stateless fun _ => incompatibleVerdict req,
    stateless fun moment => .when (isDenied process (requestHost req) moment) (.unknownHost 404)]

def policies (action : MiddlewareAction) : List PolicyCheck :=
  let req := incoming.req
  let host := requestHost req
  -- The limits count the connection's own address, not the resolved one.
  let client := incoming.remote.toText
  [checkX4xx client host action.edge,
    checkRate client host action.edge,
    checkAuth process host req action.edge,
    stateless (fileVerdict action.fileRoot req),
    checkGeoip action.geoip (clientIp incoming),
    stateless (captchaVerdict process h3QueryParam action.security req (clientIp incoming)),
    checkSecurity process true action.security req (clientIp incoming)]

def handleRequest (moments : Nat → Moment) (world : World) : Outcome × Passage :=
  serve (front process incoming) (requestHost incoming.req) incoming.req.target
    (policies process incoming) moments world

section

def declaredLength (req : RequestHeader) : Nat :=
  ((req.headers.getStr "content-length").bind (Text.parseUnsigned u64Max)).getD 0

def bodyMethods : List Text := ["POST".toList, "PUT".toList, "PATCH".toList]

def expectsBody (req : RequestHeader) : Bool :=
  0 < declaredLength req || bodyMethods.contains req.method

def readH3RequestBody (frames : List Bytes) (storeBody : Bool) : Bytes :=
  let body := frames.foldl (fun body chunk => if storeBody then body ++ chunk else body) []
  if storeBody then body else []

variable (platform : Platform) (req : RequestHeader) (frames : List Bytes)

def upstreamBody : Bytes := readH3RequestBody frames (expectsBody req)

/-- What a proxied request adds to `bytes_received_total`; nothing is recorded when
the answer cannot be `delivered`. -/
def receivedGrowth (delivered : Bool) : Nat :=
  if delivered then
    (recordH3Request platform (requestHost req)
      (saturatingAdd64 (declaredLength req) (upstreamBody req frames).length) ∅).2
  else 0

theorem upstreamBody_eq :
    upstreamBody req frames = if expectsBody req then frames.flatten else [] := by
  have kept (start : Bytes) : frames.foldl (· ++ ·) start = start ++ frames.flatten := by
    induction frames generalizing start with
    | nil => simp
    | cons chunk rest induction => simp [induction]
  unfold upstreamBody readH3RequestBody
  cases expectsBody req <;> simp [kept]

/-- Whether a request's bytes are recorded at all. -/
def recorded (delivered : Bool) : Bool := delivered && !(requestHost req).isEmpty

theorem receivedGrowth_eq (delivered : Bool) :
    receivedGrowth platform req frames delivered =
      if recorded req delivered then
        saturatingAdd64 (declaredLength req) (upstreamBody req frames).length
      else 0 := by
  unfold receivedGrowth recorded recordH3Request
  cases delivered <;> cases (requestHost req).isEmpty <;> rfl

/-- A body passes whole and is counted once exactly when it is empty and goes
unrecorded, or is recorded, not announced by a `Content-Length`, and empty or sent with
a method that is known to have one. -/
theorem body_counted_iff (delivered : Bool) (fits : frames.flatten.length < u64Max) :
    (upstreamBody req frames = frames.flatten ∧
      receivedGrowth platform req frames delivered = frames.flatten.length) ↔
    if recorded req delivered then
      declaredLength req = 0 ∧ (frames.flatten = [] ∨ req.method ∈ bodyMethods)
    else frames.flatten = [] := by
  rw [receivedGrowth_eq, upstreamBody_eq]
  generalize frames.flatten = body at fits ⊢
  have expected : expectsBody req = true ↔
      0 < declaredLength req ∨ req.method ∈ bodyMethods := by simp [expectsBody]
  unfold saturatingAdd64
  by_cases expects : expectsBody req
  · by_cases counted : recorded req delivered <;> simp [expects, counted] <;> grind
  · have undeclared : declaredLength req = 0 := by grind
    by_cases counted : recorded req delivered <;>
      simp [expects, counted, undeclared] <;> grind

def unannouncedPost : RequestHeader where
  method := "POST".toList
  uri := { pathAndQuery := "/".toList }
  headers := [("host".toList, Text.asBytes "a")]

theorem unannounced_post_counted :
    upstreamBody unannouncedPost [[1], [2, 3]] = [1, 2, 3] ∧
      receivedGrowth default unannouncedPost [[1], [2, 3]] true = 3 :=
  (body_counted_iff default unannouncedPost [[1], [2, 3]] true (by decide)).2 (by decide +kernel)

theorem deleted_body_dropped :
    let req : RequestHeader := { unannouncedPost with method := "DELETE".toList }
    upstreamBody req [[1], [2, 3]] = [] ∧ receivedGrowth default req [[1], [2, 3]] true = 0 := by
  decide +kernel

end

end Quinn

namespace Quiche

def matchesRequest (fields : Fields) : Bool :=
  match pseudoMethodPath fields with
  | some (method, path) =>
    (method == Text.asBytes "GET" || method == Text.asBytes "HEAD") &&
      isHealthPathBytes path
  | none => false

def probeVerdict (fields : Fields) : Verdict Answer :=
  match pseudoMethodPath fields with
  | some (method, path) =>
    .when (matchesRequest fields)
      (.health (isJsonHealthPathBytes path) (method == Text.asBytes "HEAD"))
  | none => .next

def authorityDenied (process : Process) (fields : Fields) (moment : Moment) : Bool :=
  match (pseudoAuthority fields).bind Bytes.fromUtf8 with
  | some host => isDenied process host moment
  | none => false

/-- The address a request is attributed to; the connection's own is not known. -/
def clientIp (req : RequestHeader) : Option Text :=
  (resolveClientIp none (req.headers.getStr "x-forwarded-for")
    (req.headers.getStr "x-real-ip")).or (clientIpFromHttpHeaders req.headers)

variable (process : Process) (http : HttpParsers)

def front (fields : Fields) : List PolicyCheck :=
  [stateless fun _ => probeVerdict fields,
    stateless fun moment => .when (authorityDenied process fields moment) (.unknownHost 421)]

def policies (req : RequestHeader) (action : MiddlewareAction) : List PolicyCheck :=
  [checkGeoip action.geoip (clientIp req),
    checkSecurity process false action.security req (clientIp req)]

def handleRequest (fields : Fields) (moments : Nat → Moment) (world : World) :
    Outcome × Passage :=
  match h3ToRequest http fields with
  | .ok req =>
    serve (front process fields ++ [stateless fun _ => incompatibleVerdict req])
      (requestHost req) req.target (policies process req) moments world
  | .error message =>
    -- The conversion fails after the checks on the raw fields.
    serve (front process fields ++ [stateless fun _ => .stop (.badRequest message)])
      [] [] (fun _ => []) moments world

end Quiche

end PertiskProxy.H3
