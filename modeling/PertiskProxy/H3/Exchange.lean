import PertiskProxy.H3.Server
import PertiskProxy.Proxy.Response

/-! Whom each data plane takes a request to come from. -/

namespace PertiskProxy.H3

open Http Net Proxy Gateway

/-- A request as it arrives on a plane. The quiche server does not look at the
address of the connection. -/
inductive Downstream where
  | pingora (session : Session)
  | quinn (incoming : Quinn.Incoming)
  | quiche (remote : IpAddr) (req : RequestHeader)

/-- The addresses that the policies of a route are applied to; the quiche server has
no limits. -/
structure Identity where
  geoip : Option Text
  bot : Option Text
  captcha : Option Text
  rate : Option Text
deriving DecidableEq

def Identity.ofClient (client rate : Option Text) : Identity where
  geoip := client
  bot := client
  captcha := client
  rate := rate

namespace Downstream

def plane : Downstream → Plane
  | .pingora _ => .pingora
  | .quinn _ => .quinn
  | .quiche _ _ => .quiche

def req : Downstream → RequestHeader
  | .pingora session => session.req
  | .quinn incoming => incoming.req
  | .quiche _ req => req

def socket : Downstream → Option IpAddr
  | .pingora session => (session.clientAddr.or session.peerAddr).bind SocketAddr.ip
  | .quinn incoming => some incoming.remote
  | .quiche remote _ => some remote

def withHeaders (downstream : Downstream) (headers : HeaderMap) : Downstream :=
  match downstream with
  | .pingora session => .pingora { session with req := { session.req with headers } }
  | .quinn incoming => .quinn { incoming with req := { incoming.req with headers } }
  | .quiche remote req => .quiche remote { req with headers }

def clientIp : Downstream → Option Text
  | .pingora session => sessionClientIp session
  | .quinn incoming => Quinn.clientIp incoming
  | .quiche _ req => Quiche.clientIp req

def identity (downstream : Downstream) : Identity :=
  Identity.ofClient downstream.clientIp <|
    match downstream with
    | .pingora session => some (Gateway.edgeClient session)
    | .quinn incoming => some incoming.remote.toText
    | .quiche _ _ => none

variable (downstream : Downstream)

@[simp] theorem identity_geoip :
    downstream.identity.geoip = downstream.clientIp := rfl

@[simp] theorem identity_bot :
    downstream.identity.bot = downstream.clientIp := rfl

@[simp] theorem identity_captcha :
    downstream.identity.captcha = downstream.clientIp := rfl

@[simp] theorem identity_rate_pingora (session : Session) :
    (Downstream.pingora session).identity.rate = some (edgeClient session) := rfl

@[simp] theorem identity_rate_quinn (incoming : Quinn.Incoming) :
    (Downstream.quinn incoming).identity.rate = some incoming.remote.toText := rfl

end Downstream

section

variable (process : Process) (action : MiddlewareAction)

theorem gateway_checks (gateway : Gateway) (session : Session) :
    let identity := (Downstream.pingora session).identity
    let host := requestHost session.req
    limitErrors session = policyStage (fun ctx =>
        checkX4xx (identity.rate.getD []) host ctx.edge) ∧
      limitRate session = policyStage (fun ctx =>
        checkRate (identity.rate.getD []) host ctx.edge) ∧
      geoip session = policyStage (fun ctx => checkGeoip ctx.geoip identity.geoip) ∧
      captcha gateway session = policyStage (fun ctx => stateless
        (captchaVerdict gateway.process queryParam ctx.security session.req identity.captcha)) ∧
      security gateway session = policyStage (fun ctx =>
        checkSecurity gateway.process true ctx.security session.req identity.bot) := by
  simp [limitErrors, limitRate, geoip, captcha, security,
    Downstream.identity_geoip, Downstream.identity_bot, Downstream.identity_captcha,
    Downstream.identity_rate_pingora, Downstream.clientIp]

theorem quinn_checks (incoming : Quinn.Incoming) :
    let identity := (Downstream.quinn incoming).identity
    let host := requestHost incoming.req
    Quinn.policies process incoming action =
      [checkX4xx (identity.rate.getD []) host action.edge,
        checkRate (identity.rate.getD []) host action.edge,
        checkAuth process host incoming.req action.edge,
        stateless (fileVerdict action.fileRoot incoming.req),
        checkGeoip action.geoip identity.geoip,
        stateless (captchaVerdict process h3QueryParam action.security incoming.req
          identity.captcha),
        checkSecurity process true action.security incoming.req identity.bot] := by
  simp [Quinn.policies, Downstream.identity_geoip, Downstream.identity_bot,
    Downstream.identity_captcha, Downstream.identity_rate_quinn, Downstream.clientIp]

theorem quiche_checks (remote : IpAddr) (req : RequestHeader) :
    let identity := (Downstream.quiche remote req).identity
    Quiche.policies process req action =
      [checkGeoip action.geoip identity.geoip,
        checkSecurity process false action.security req identity.bot] :=
  rfl

end

def OfSocket (address : IpAddr) (text : Text) : Prop :=
  ∃ other : IpAddr, text = other.toText ∧ unmapped other = unmapped address

structure Identity.IsSocket (identity : Identity) (address : IpAddr) : Prop where
  geoip : ∃ text, identity.geoip = some text ∧ OfSocket address text
  bot : ∃ text, identity.bot = some text ∧ OfSocket address text
  captcha : ∃ text, identity.captcha = some text ∧ OfSocket address text
  rate : ∀ text ∈ identity.rate, OfSocket address text

theorem ofSocket_unmapped (address : IpAddr) : OfSocket address (unmapped address).toText :=
  ⟨unmapped address, rfl, unmapped_idem address⟩

def socketIdentity (plane : Plane) (address : IpAddr) : Identity :=
  Identity.ofClient (some (unmapped address).toText) <|
    match plane with
    | .pingora => some (unmapped address).toText
    | .quinn => some address.toText
    | .quiche => none

theorem isSocket_socketIdentity (plane : Plane) (address : IpAddr) :
    (socketIdentity plane address).IsSocket address where
  geoip := ⟨_, rfl, ofSocket_unmapped address⟩
  bot := ⟨_, rfl, ofSocket_unmapped address⟩
  captcha := ⟨_, rfl, ofSocket_unmapped address⟩
  rate := by
    intro text limited
    cases plane with
    | pingora =>
      cases limited
      exact ofSocket_unmapped address
    | quinn =>
      cases limited
      exact ⟨address, rfl, rfl⟩
    | quiche => cases limited

theorem identity_of_public {downstream : Downstream} {address : IpAddr}
    (looks : downstream.plane ≠ .quiche) (connected : downstream.socket = some address)
    (routable : isPublicRoutableIp address.toText = true) :
    downstream.identity = socketIdentity downstream.plane address := by
  cases downstream with
  | pingora session =>
    have resolved : sessionClientIp session = some (unmapped address).toText := by
      change (session.clientAddr.or session.peerAddr).bind SocketAddr.ip = some address
        at connected
      rw [sessionClientIp, connected]
      exact resolveClientIp_of_public routable _ _
    simp only [Downstream.identity, Downstream.clientIp, edgeClient, resolved,
      Option.getD_some]
    rfl
  | quinn incoming =>
    cases connected
    have resolved : Quinn.clientIp incoming = some (unmapped incoming.remote).toText :=
      resolveClientIp_of_public routable _ _
    simp only [Downstream.identity, Downstream.clientIp, resolved]
    rfl
  | quiche remote req => exact absurd rfl looks

/-- On a plane, no header changes whom the policies see, and that is the connection,
exactly when the plane is not the quiche server. -/
theorem socket_identity_iff (plane : Plane) {address : IpAddr}
    (routable : isPublicRoutableIp address.toText = true) :
    (∀ (downstream : Downstream) (headers : HeaderMap), downstream.plane = plane →
      downstream.socket = some address →
      (downstream.withHeaders headers).identity = downstream.identity ∧
        downstream.identity.IsSocket address) ↔
    plane ≠ .quiche := by
  constructor
  · rintro same rfl
    have bare := (same (.quiche address { method := "GET", uri := { pathAndQuery := "/" } }) []
      rfl rfl).2
    rcases bare.geoip with ⟨text, unknown, -⟩
    cases unknown
  intro looks downstream headers onPlane connected
  subst onPlane
  have kept : (downstream.withHeaders headers).plane = downstream.plane ∧
      (downstream.withHeaders headers).socket = downstream.socket := by
    cases downstream <;> exact ⟨rfl, rfl⟩
  have known := identity_of_public looks connected routable
  have renamed := identity_of_public (kept.1 ▸ looks) (kept.2.trans connected) routable
  rw [known, renamed, kept.1]
  exact ⟨rfl, isSocket_socketIdentity _ address⟩

def publicClient : IpAddr := .v4 ⟨203, 0, 113, 7⟩

def getRequest (headers : HeaderMap) : RequestHeader where
  method := "GET"
  uri := { pathAndQuery := "/" }
  headers := headers

theorem quinn_ignores_headers : isPublicRoutableIp publicClient.toText = true ∧
      (Downstream.quinn ⟨getRequest [("x-real-ip".toList, Text.asBytes "198.51.100.9")],
        publicClient⟩).identity.IsSocket publicClient := by
  have routable : isPublicRoutableIp publicClient.toText = true := by decide
  exact ⟨routable, ((socket_identity_iff .quinn routable).mpr (by decide) _ [] rfl rfl).2⟩

/-- The quiche server takes the address from `X-Real-IP`. -/
theorem quiche_believes_headers :
    let bare := Downstream.quiche publicClient (getRequest [])
    isPublicRoutableIp publicClient.toText = true ∧ bare.socket = some publicClient ∧
      bare.identity.geoip = none ∧
      (bare.withHeaders [("x-real-ip".toList, Text.asBytes "198.51.100.9")]).identity.geoip =
        some "198.51.100.9".toList := by
  decide

/-! How the two HTTP/3 servers pass on the response of an upstream (`h3/quinn_server.rs`,
`h3/server.rs`). -/

/-- The response of an upstream: what it announces, and after how many bytes of the
body reading fails, if it does. -/
structure UpstreamResponse extends ResponseHeader where
  body : Bytes
  failsAfter : Option Nat := none
deriving DecidableEq

namespace UpstreamResponse

/-- `Response::bytes`: the whole body, or an error wherever reading fails. -/
def bytes (response : UpstreamResponse) : Option Bytes :=
  match response.failsAfter with
  | none => some response.body
  | some _ => none

def bytesOrEmpty (response : UpstreamResponse) : Bytes :=
  response.bytes.getD []

end UpstreamResponse

structure Message where
  header : ResponseHeader
  body : Bytes
deriving DecidableEq

/-- What a client sees of a response: all of it, or a stream that breaks off. -/
inductive Seen where
  | completed (message : Message)
  | broken
deriving DecidableEq

structure Route where
  process : Process
  ociRegistry : Bool
  action : MiddlewareAction

namespace Quinn

def rewriteLocation (headers : HeaderMap) : HeaderMap :=
  match (headers.getStr "location").bind (Registry.rewriteRegistryLocationValue · true) with
  | some https => headers.insert ("location".toList, https)
  | none => headers

def responseHeaders (route : Route) (headers : HeaderMap) (length : Nat) : HeaderMap :=
  let headers := (headers.remove "server").remove "transfer-encoding"
  let headers := [ ("content-length".toList, Text.ofNat length),
    ("server", "pertisk-proxy/h3"),
    ("x-app-name", route.process.appName) ].foldl HeaderMap.insert headers
  let headers :=
    if route.ociRegistry then
      rewriteLocation ((headers.remove "set-cookie").insert ("Alt-Svc", "clear"))
    else headers
  route.action.responseHeaders.foldl HeaderMap.insert headers

def respond (route : Route) (response : UpstreamResponse) : Message :=
  let body := response.bytesOrEmpty
  { header :=
      { status := response.status
        headers := responseHeaders route response.headers body.length }
    body }

end Quinn

namespace Quiche

/-- One header of the upstream as it is passed on; a value that is no text is emptied. -/
def copyHeader (ociRegistry : Bool) (header : Text × Bytes) : Option (Text × Bytes) :=
  if header.1 = "server".toList then none
  else if ociRegistry && header.1 = "set-cookie".toList then none
  else
    let value := (headerToStr header.2).getD []
    let out :=
      if ociRegistry && header.1 = "location".toList then
        (Registry.rewriteRegistryLocationValue value true).getD value
      else value
    some (header.1, out.asBytes)

/-- `Builder::header`; one invalid header spoils the response. -/
def headerLine (header : Text × Text) : Option (Text × Bytes) :=
  (headerName header.1).bind fun name => (headerValue header.2).map fun value => (name, value)

/-- The headers in the order they are added. Without them the handler panics. -/
def responseHeaders (route : Route) (headers : HeaderMap) : Option HeaderMap :=
  (route.action.responseHeaders.mapM headerLine).map fun added =>
    [ ("server".toList, Text.asBytes "pertisk-proxy/h3"),
      ("x-app-name".toList, route.process.appName.asBytes) ] ++
      headers.filterMap (copyHeader route.ociRegistry) ++
      (if route.ociRegistry then [("alt-svc".toList, Text.asBytes "clear")] else []) ++ added

def respond (route : Route) (response : UpstreamResponse) : Option Message :=
  (responseHeaders route response.headers).map fun headers =>
    { header := { status := response.status, headers }
      body := response.bytesOrEmpty }

theorem responseHeaders_eq_none : responseHeaders route headers = none ↔
      ∃ header ∈ route.action.responseHeaders, headerLine header = none := by
  rw [responseHeaders, Option.map_eq_none_iff]
  induction route.action.responseHeaders with
  | nil => simp
  | cons header rest induction =>
    rw [List.mapM_cons, List.exists_mem_cons_iff, ← induction]
    cases headerLine header with
    | none => simp
    | some line => cases rest.mapM headerLine <;> simp

end Quiche

inductive Handler where
  | quinn
  | quiche
deriving DecidableEq

structure Transfer where
  handler : Handler
  route : Route
  response : UpstreamResponse
  breaks : Bool

namespace Transfer

variable (transfer : Transfer)

def message : Option Message :=
  match transfer.handler with
  | .quinn => some (Quinn.respond transfer.route transfer.response)
  | .quiche => Quiche.respond transfer.route transfer.response

def seen : Seen :=
  match transfer.message with
  | some message => if transfer.breaks then .broken else .completed message
  | none => .broken

/-- A completed response with the upstream's success status has the upstream's body,
and a failed transfer ends with an error status or breaks off. -/
structure Honest : Prop where
  faithful : ∀ message, transfer.seen = .completed message →
    message.header.status = transfer.response.status →
    transfer.response.isSuccess = true → message.body = transfer.response.body
  visible : transfer.response.failsAfter.isSome = true →
    transfer.seen = .broken ∨
      ∃ message, transfer.seen = .completed message ∧ 400 ≤ message.header.status

theorem message_eq_some {message : Message} (sent : transfer.message = some message) :
    message.header.status = transfer.response.status ∧
      message.body = transfer.response.bytesOrEmpty := by
  unfold Transfer.message at sent
  split at sent
  · cases sent
    exact ⟨rfl, rfl⟩
  · rcases Option.map_eq_some_iff.mp sent with ⟨headers, -, rfl⟩
    exact ⟨rfl, rfl⟩

/-- The quiche handler fails on a response header that the route may not set. -/
def panics : Bool :=
  transfer.handler = .quiche &&
    transfer.route.action.responseHeaders.any fun header => (Quiche.headerLine header).isNone

theorem message_eq_none : transfer.message = none ↔ transfer.panics = true := by
  unfold message panics
  cases transfer.handler with
  | quinn => simp
  | quiche =>
    rw [Quiche.respond, Option.map_eq_none_iff, Quiche.responseHeaders_eq_none]
    simp

theorem seen_eq_completed {message : Message} : transfer.seen = .completed message ↔
      transfer.message = some message ∧ transfer.breaks = false := by
  unfold seen
  cases transfer.message with
  | none => simp
  | some sent => cases transfer.breaks <;> simp

theorem seen_eq_broken :
    transfer.seen = .broken ↔ transfer.breaks = true ∨ transfer.panics = true := by
  rw [← transfer.message_eq_none]
  unfold seen
  cases transfer.message with
  | none => simp
  | some sent => cases transfer.breaks <;> simp

theorem seen_cases : transfer.seen = .broken ∨ ∃ message, transfer.seen = .completed message ∧
        message.header.status = transfer.response.status := by
  cases seen : transfer.seen with
  | broken => exact .inl rfl
  | completed message =>
    have sent := (transfer.seen_eq_completed.mp seen).1
    exact .inr ⟨message, rfl, (transfer.message_eq_some sent).1⟩

theorem visible_iff : (transfer.seen = .broken ∨
      ∃ message, transfer.seen = .completed message ∧ 400 ≤ message.header.status) ↔
      400 ≤ transfer.response.status ∨ transfer.seen = .broken := by
  rcases transfer.seen_cases with broken | ⟨message, completed, same⟩
  · simp [broken]
  · simp [completed, same]

/-- A transfer is honest exactly when the body could be read, or the upstream's status
is an error anyway, or nothing complete reaches the client. -/
theorem transfer_honest_iff :
    transfer.Honest ↔ transfer.response.failsAfter = none ∨ 400 ≤ transfer.response.status ∨
      transfer.breaks = true ∨ transfer.panics = true := by
  rw [← transfer.seen_eq_broken]
  constructor
  · intro honest
    rcases failing : transfer.response.failsAfter with _ | position
    · exact .inl rfl
    · exact .inr (transfer.visible_iff.mp (honest.visible (by simp [failing])))
  intro condition
  constructor
  · intro message completed _ success
    have sent := (transfer.seen_eq_completed.mp completed).1
    have read : transfer.response.failsAfter = none := by
      rcases condition with read | error | broken
      · exact read
      · simp only [ResponseHeader.isSuccess, Bool.and_eq_true, decide_eq_true_eq] at success
        omega
      · simp [completed] at broken
    rw [(transfer.message_eq_some sent).2]
    simp [UpstreamResponse.bytesOrEmpty, UpstreamResponse.bytes, read]
  · intro failing
    refine transfer.visible_iff.mpr (condition.resolve_left ?_)
    simpa [Option.isSome_iff_ne_none] using failing

end Transfer

/-- Both servers complete a successful response with an empty body when the connection
to the upstream is lost after two of its five bytes. -/
theorem lost_body_completed :
    let response : UpstreamResponse :=
      { status := 200, headers := [], body := Text.asBytes "hello", failsAfter := some 2 }
    let route : Route :=
      { process := default, ociRegistry := false, action := {} }
    ∀ handler : Handler,
      let transfer : Transfer := { handler, route, response, breaks := false }
      ¬ transfer.Honest ∧
        ∃ message, transfer.seen = .completed message ∧
          message.header.status = 200 ∧ message.body = [] := by
  intro response route handler transfer
  have completed : ∃ message, transfer.seen = .completed message ∧
      message.header.status = 200 ∧ message.body = [] := by
    cases handler <;> exact ⟨_, rfl, rfl, rfl⟩
  refine ⟨fun honest => ?_, completed⟩
  rcases completed with ⟨message, seen, status, empty⟩
  have whole : message.body = Text.asBytes "hello" := honest.faithful message seen status rfl
  rw [empty] at whole
  exact absurd whole (by decide)

/-! The two HTTP/3 servers build the request they send on in the same way: every header is
added to those there are. -/

open Edge Router HeaderLines List

/-- The headers sent upstream; nothing is sent if one of them is invalid. -/
def upstreamLines (req : RequestHeader) (action : MiddlewareAction) (clientIp : Option Text) :
    Option HeaderLines := do
  let host := requestHost req
  let path := req.uri.path
  let ociRegistry := Registry.isOciRegistryPath path
  let lines := (ofMap req.headers).filter fun line =>
    line.name ≠ "host".toList && !(ociRegistry && Registry.strippedHeaders.contains line.name)
  let lines ← if ociRegistry then
      (Registry.registryUpstreamHeaderPairs host req.method path none true).foldlM
        (append .proxy) lines
    else some lines
  let lines ← action.requestHeaders.foldlM (append .route) lines
  let pairs := match clientIp with
    | some ip => forwardedClientIpHeaderPairs ip (req.headers.getStr "x-forwarded-for")
    | none => []
  let lines ← if ociRegistry then some lines
    else pairs.foldlM (append .proxy) lines
  lines.append .proxy ("host".toList, host)

def sendingCtx (session : Session) (action : MiddlewareAction) : RequestCtx where
  toMiddlewareAction := action
  toRequestClass := (earlyRequestFilter session).toRequestClass

namespace Downstream

def upstreamLines (downstream : Downstream) (action : MiddlewareAction) : Option HeaderLines :=
  match downstream with
  | .pingora session =>
    some (Gateway.upstreamRequestFilter session (sendingCtx session action)).lines
  | .quinn incoming => H3.upstreamLines incoming.req action (Quinn.clientIp incoming)
  | .quiche _ req => H3.upstreamLines req action (Quiche.clientIp req)

end Downstream

def configured (action : MiddlewareAction) (name : Text) : HeaderLines :=
  named (action.requestHeaders.filterMap (HeaderLine.parse .route)) name

/-- With addresses forwarded, the upstream is told the resolved one and no other;
without, the proxy tells it none. -/
structure TellsClient (forward : Bool) (clientIp : Option Text) (lines : HeaderLines) :
    Prop where
  one : forward = true → ∀ ip, clientIp = some ip →
    (lines.named "x-real-ip").map HeaderLine.value = [ip.asBytes]
  none : forward = false → ∀ name, IsClientHeader name → ∀ line ∈ lines.named name,
    line.origin ≠ .proxy

theorem tellsClient_true : TellsClient true clientIp lines ↔ ∀ ip, clientIp = some ip →
      (lines.named "x-real-ip").map HeaderLine.value = [ip.asBytes] :=
  ⟨fun tells => tells.one rfl, fun one => ⟨fun _ => one, fun wrong => (by cases wrong)⟩⟩

theorem tellsClient_false : TellsClient false clientIp lines ↔ ∀ name, IsClientHeader name →
      ∀ line ∈ lines.named name, line.origin ≠ .proxy :=
  ⟨fun tells => tells.none rfl, fun none => ⟨fun wrong => (by cases wrong), fun _ => none⟩⟩

theorem origin_ofMap (member : line ∈ (ofMap headers).named name) :
    line.origin = .client := by
  rcases mem_map.mp (mem_filter.mp member).1 with ⟨header, -, rfl⟩
  rfl

theorem origin_configured (member : line ∈ configured action name) :
    line.origin = .route := by
  rcases mem_filterMap.mp (mem_filter.mp member).1 with ⟨header, -, parsed⟩
  exact (name_of_parse parsed).2.2

/-! ## HTTP/3 -/

theorem printable_clientIpFromHttpHeaders
    (found : clientIpFromHttpHeaders headers = some ip) : Printable ip := by
  unfold clientIpFromHttpHeaders at found
  rcases exists_of_findSome?_eq_some found with ⟨name, -, given⟩
  rcases Option.bind_eq_some_iff.mp given with ⟨value, stated, taken⟩
  rcases Option.bind_eq_some_iff.mp stated with ⟨bytes, -, text⟩
  have printable := printable_of_headerToStr text
  split at taken
  · rcases Option.bind_eq_some_iff.mp taken with ⟨xff, same, hop⟩
    cases same
    dsimp only at hop
    split at hop
    · cases hop
    · cases hop
      intro c member
      have inside := Text.mem_of_mem_trimMatches (Text.mem_of_mem_trimMatches member)
      exact printable c ((List.takeWhile_prefix _).subset inside)
  · split at taken
    · cases taken
    · cases taken
      exact printable_trim printable

theorem printable_clientIp {downstream : Downstream} {ip : Text}
    (known : downstream.clientIp = some ip) : Printable ip := by
  have resolved : ∀ {socketIp xff xRealIp : Option Text},
      resolveClientIp socketIp xff xRealIp = some ip → Printable ip := by
    intro socketIp xff xRealIp found
    rcases resolveClientIp_printed found with ⟨address, rfl⟩
    exact printable_of_address address
  cases downstream with
  | pingora session | quinn incoming => exact resolved known
  | quiche remote req =>
    rcases Option.or_eq_some_iff.mp known with found | ⟨-, found⟩
    · exact resolved found
    · exact printable_clientIpFromHttpHeaders found

theorem named_upstreamLines (client : IsClientHeader name)
    (general : Registry.isOciRegistryPath req.uri.path = false)
    (printable : ∀ ip ∈ clientIp, Printable ip)
    (sent : upstreamLines req action clientIp = some lines) :
    ∃ added : HeaderLines, lines.named name =
        (ofMap req.headers).named name ++ configured action name ++ added ∧
      (clientIp = none → added = []) ∧
      ∀ ip, clientIp = some ip → ∃ value, added = [⟨name, value, .proxy⟩] ∧
        (name = "x-real-ip".toList → value = ip.asBytes) := by
  have host : name ≠ "host".toList := by rcases client with rfl | rfl <;> decide
  have kept : named ((ofMap req.headers).filter fun line =>
      line.name ≠ "host".toList && !(false && Registry.strippedHeaders.contains line.name)) name =
      (ofMap req.headers).named name := by
    have dropped := named_remove_of_ne host.symm (ofMap req.headers)
    simpa [remove] using dropped
  simp only [upstreamLines, general, Bool.false_eq_true, if_false, Option.bind_eq_bind,
    Option.bind_some, foldlM_append] at sent
  rcases Option.bind_eq_some_iff.mp sent with ⟨withRoute, first, sent⟩
  rcases Option.map_eq_some_iff.mp first with ⟨routeLines, routed, rfl⟩
  rcases Option.bind_eq_some_iff.mp sent with ⟨withClient, second, sent⟩
  rcases Option.map_eq_some_iff.mp second with ⟨added, paired, rfl⟩
  rcases Option.map_eq_some_iff.mp sent with ⟨hostLine, last, rfl⟩
  have unhosted : named [hostLine] name = [] := by
    have named := (name_of_parse last).1
    have isHost : headerName "host" = some "host".toList := by decide
    rw [named_singleton, if_neg]
    exact fun same => host (same.symm.trans (Option.some.inj named).symm)
  refine ⟨named added name, ?_, ?_, ?_⟩
  · rw [configured, Fallible.filterMap_of_mapM routed]
    simp only [named_append, unhosted, append_nil]
    rw [kept]
  · rintro rfl
    cases paired
    rfl
  rintro ip rfl
  have existing : ∀ xff ∈ req.headers.getStr "x-forwarded-for", Printable xff := by
    intro xff found
    rcases Option.bind_eq_some_iff.mp found with ⟨bytes, -, text⟩
    exact printable_of_headerToStr text
  rcases parse_forwardedClientIpHeaderPairs (printable ip rfl) existing .proxy with
    ⟨value, parsed⟩
  cases paired.symm.trans parsed
  rcases client with rfl | rfl
  · exact ⟨ip.asBytes, rfl, fun _ => rfl⟩
  · exact ⟨value, rfl, fun other => absurd other (by decide)⟩

/-- The HTTP/3 servers tell the client's address if neither the client nor the route
gives another, whether or not it is to be forwarded. -/
theorem tellsClient_upstreamLines (forward : Bool)
    (general : Registry.isOciRegistryPath req.uri.path = false)
    (printable : ∀ ip ∈ clientIp, Printable ip)
    (sent : upstreamLines req action clientIp = some lines) :
    TellsClient forward clientIp lines ↔ clientIp = none ∨
      (forward = true ∧ (ofMap req.headers).named "x-real-ip" = [] ∧
        configured action "x-real-ip" = []) := by
  rcases named_upstreamLines (.inl rfl) general printable sent with
    ⟨added, realIp, -, told⟩
  cases clientIp with
  | none =>
    simp only [true_or, iff_true]
    refine ⟨fun _ ip known => (by cases known), ?_⟩
    intro _ name client line member
    rcases named_upstreamLines client general printable sent with ⟨added, named, silent, -⟩
    rw [named, silent rfl, append_nil, mem_append] at member
    rcases member with given | given
    · simp [origin_ofMap given]
    · simp [origin_configured given]
  | some ip =>
    rcases told ip rfl with ⟨value, rfl, exact⟩
    cases exact rfl
    cases forward with
    | true =>
      rw [tellsClient_true, realIp]
      simp only [true_and, reduceCtorEq, false_or]
      constructor
      · intro alone
        have first := alone ip rfl
        rw [map_append] at first
        simpa using append_left_eq_self.mp first
      · rintro ⟨unsaid, unset⟩ other known
        cases known
        rw [unsaid, unset]
        rfl
    | false =>
      simp only [Bool.false_eq_true, false_and, reduceCtorEq, or_self, iff_false]
      intro tells
      exact tells.none rfl _ (.inl rfl) ⟨"x-real-ip", ip.asBytes, .proxy⟩
        (by rw [realIp]; simp) rfl

/-! ## Pingora -/

/-- When the gateway tells the upstream what it should. The address of the connection
stands for the client's where the upstream gets the path of a registry. -/
def GatewayTells (forward : Bool) (session : Session) (action : MiddlewareAction) : Prop :=
  if Registry.isOciRegistryPath
      (Gateway.strippedUri (sendingCtx session action) session.req.uri).path then
    if forward then ∀ ip, sessionClientIp session = some ip →
      Gateway.socketClientIp session = some ip
    else Gateway.socketClientIp session = none
  else
    if forward then ∀ ip, sessionClientIp session = some ip →
      ∀ line ∈ (configured action "x-real-ip").getLast?, line.value = ip.asBytes
    else sessionClientIp session = none ∨
      ∀ name, IsClientHeader name → configured action name ≠ []

theorem registry_tells {session : Session} {lines : HeaderLines} (forward : Bool)
    (named : ∀ name, IsClientHeader name → lines.named name =
      ((session.clientAddr.bind SocketAddr.ip).map fun ip =>
        (⟨name, ip.toText.asBytes, .proxy⟩ : HeaderLine)).toList) :
    TellsClient forward (sessionClientIp session) lines ↔
      if forward then ∀ ip, sessionClientIp session = some ip →
        socketClientIp session = some ip
      else socketClientIp session = none := by
  have realIp := named _ (.inl rfl)
  unfold socketClientIp
  cases forward with
  | true =>
    rw [tellsClient_true, realIp, if_pos rfl]
    apply forall_congr'
    intro ip
    cases session.clientAddr.bind SocketAddr.ip with
    | none => simp
    | some address => simp [Text.asBytes_injective.eq_iff]
  | false =>
    rw [tellsClient_false, if_neg Bool.false_ne_true]
    constructor
    · intro silent
      have unsaid := silent _ (.inl rfl)
      rw [realIp] at unsaid
      cases socket : session.clientAddr.bind SocketAddr.ip with
      | none => rfl
      | some address =>
        rw [socket] at unsaid
        exact absurd rfl (unsaid _ mem_cons_self)
    · intro unknown name client line member
      rw [named name client, Option.map_eq_none_iff.mp unknown] at member
      cases member

theorem route_tells {session : Session} {action : MiddlewareAction}
    (general : (sendingCtx session action).isRegistry = false) {lines : HeaderLines}
    (forward : Bool) (named : ∀ name, IsClientHeader name →
      lines.named name = (routeLines session (sendingCtx session action)).named name) :
    TellsClient forward (sessionClientIp session) lines ↔
      if forward then ∀ ip, sessionClientIp session = some ip →
        ∀ line ∈ (configured action "x-real-ip").getLast?, line.value = ip.asBytes
      else sessionClientIp session = none ∨
        ∀ name, IsClientHeader name → configured action name ≠ [] := by
  have headers : ∀ name, HeaderLines.named ((sendingCtx session action).requestHeaders.filterMap
      (HeaderLine.parse .route)) name = configured action name := fun _ => rfl
  have overridden : ∀ {name : Text} {line : HeaderLine}, IsClientHeader name →
      (configured action name).getLast? = some line → lines.named name = [line] := by
    intro name line client last
    rw [named name client, named_routeLines client, headers, last]
  have unset : ∀ {name : Text}, IsClientHeader name → configured action name = [] →
      lines.named name =
        (forwardingLines session (sendingCtx session action)).named name := by
    intro name client empty
    rw [named name client, named_routeLines client, headers, empty]
    rfl
  cases forward with
  | true =>
    rw [tellsClient_true, if_pos rfl]
    apply forall_congr'
    intro ip
    apply imp_congr_right
    intro known
    cases last : (configured action "x-real-ip").getLast? with
    | some line =>
      rw [overridden (.inl rfl) last]
      simp
    | none =>
      rw [unset (.inl rfl) (getLast?_eq_none_iff.mp last),
        (named_forwardingLines_known general known).1]
      simp
  | false =>
    rw [tellsClient_false, if_neg Bool.false_ne_true]
    constructor
    · intro silent
      cases known : sessionClientIp session with
      | none => exact .inl rfl
      | some ip =>
        refine .inr fun name client empty => ?_
        have told := named_forwardingLines_known general known
        have unsaid := silent name client
        rw [unset client empty] at unsaid
        rcases client with rfl | rfl
        · rw [told.1] at unsaid
          exact unsaid _ mem_cons_self rfl
        · rcases told.2 with ⟨value, forwarded⟩
          rw [forwarded] at unsaid
          exact unsaid _ mem_cons_self rfl
    intro clear name client line member
    cases last : (configured action name).getLast? with
    | some set =>
      rw [overridden client last, mem_singleton] at member
      subst member
      simp [origin_configured (mem_of_getLast? last)]
    | none =>
      have empty := getLast?_eq_none_iff.mp last
      rcases clear with unknown | both
      · rw [unset client empty, named_forwardingLines_unknown unknown client] at member
        simp [origin_ofMap member]
      · exact absurd empty (both name client)

/-! ## All planes -/

def ClientTold (action : MiddlewareAction) (downstream : Downstream) : Prop :=
  match downstream with
  | .pingora session => GatewayTells action.forwardClientIp session action
  | .quinn _ | .quiche _ _ => downstream.clientIp = none ∨
      (action.forwardClientIp = true ∧
        (ofMap downstream.req.headers).named "x-real-ip" = [] ∧
        configured action "x-real-ip" = [])

/-- What the upstream is told of the client, for every request that is sent on and
whose path is not that of a registry. -/
theorem client_told_iff (downstream : Downstream) {action : MiddlewareAction}
    {lines : HeaderLines} (general : Registry.isOciRegistryPath downstream.req.uri.path = false)
    (sent : downstream.upstreamLines action = some lines) :
    TellsClient action.forwardClientIp downstream.clientIp lines ↔
      ClientTold action downstream := by
  cases downstream with
  | pingora session =>
    cases sent
    change TellsClient _ (sessionClientIp session) _ ↔ GatewayTells _ session action
    unfold GatewayTells
    split
    · next registry =>
      apply registry_tells
      intro name client
      rw [named_upstreamRequestFilter client, if_pos registry]
    · next other =>
      apply route_tells (show (sendingCtx session action).isRegistry = false from general)
      intro name client
      rw [named_upstreamRequestFilter client, if_neg other]
  | quinn incoming =>
    exact tellsClient_upstreamLines _ general
      (fun ip known => @printable_clientIp (.quinn incoming) ip known) sent
  | quiche remote req =>
    exact tellsClient_upstreamLines _ general
      (fun ip known => @printable_clientIp (.quiche remote req) ip known) sent

def visitor : IpAddr := .v4 ⟨203, 0, 113, 7⟩

def plainRequest (headers : HeaderMap) : RequestHeader where
  method := "GET"
  uri := { pathAndQuery := "/" }
  headers := ("host".toList, Text.asBytes "a.example") :: headers

theorem quinn_tells_plain_client :
    ∃ lines, (Downstream.quinn ⟨plainRequest [], visitor⟩).upstreamLines {} = some lines ∧
      TellsClient true (Downstream.quinn ⟨plainRequest [], visitor⟩).clientIp lines := by
  have sends : ((Downstream.quinn ⟨plainRequest [], visitor⟩).upstreamLines {}).isSome = true := by
    decide
  rcases Option.isSome_iff_exists.mp sends with ⟨lines, sent⟩
  exact ⟨lines, sent, (client_told_iff (.quinn ⟨plainRequest [], visitor⟩) (by decide) sent).mpr
    (.inr ⟨rfl, rfl, rfl⟩)⟩

/-- The Quinn server sends a forged address on beside the real one, and the gateway
tells the address of a site that does not want it forwarded. -/
theorem forged_and_unwanted_addresses :
    let forged := Downstream.quinn
      ⟨plainRequest [("x-real-ip".toList, Text.asBytes "198.51.100.9")], visitor⟩
    let unwanted := Downstream.pingora
      { req := plainRequest [], clientAddr := some (.inet visitor) }
    forged.clientIp = some visitor.toText ∧
      (forged.upstreamLines {}).map
          (fun lines => (lines.named "x-real-ip").map HeaderLine.value) =
        some [Text.asBytes "198.51.100.9", visitor.toText.asBytes] ∧
      (unwanted.upstreamLines { forwardClientIp := false }).map
          (fun lines => lines.named "x-real-ip") =
        some [⟨"x-real-ip", visitor.toText.asBytes, .proxy⟩] := by
  decide

end PertiskProxy.H3
