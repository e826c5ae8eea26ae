import PertiskProxy.Proxy.UpstreamRequest

/-! What the gateway does with the response of an upstream (`proxy/mod.rs`): it rewrites
the headers, counts error responses, collects the body for the cache, and logs the
request. -/

namespace PertiskProxy.Proxy

open Edge Http Registry

namespace Registry

/-- Harbor may emit `http://` blob upload locations. -/
def rewriteRegistryLocationValue (loc : Text) (downstreamTls : Bool) : Option Text :=
  if downstreamTls then
    (Text.stripPrefix loc "http://").map fun rest => "https://".toList ++ rest
  else none

def rewriteRegistryLocationToHttps (headers : HeaderMap) : HeaderMap :=
  match (headers.getStr "location").bind (rewriteRegistryLocationValue · true) with
  | some https => (headers.remove "location").insert ("location".toList, https)
  | none => headers

def prepareRegistryResponseHeaders (headers : HeaderMap) (downstreamTls : Bool) : HeaderMap :=
  let headers := (headers.remove "set-cookie").insert ("Alt-Svc".toList, "clear".toList)
  if downstreamTls then rewriteRegistryLocationToHttps headers else headers

end Registry

namespace Grpc

def connectionNames : List Text :=
  [ "transfer-encoding".toList, "connection".toList, "keep-alive".toList,
    "proxy-connection".toList ]

def stripHopByHopResponseHeaders (headers : HeaderMap) : HeaderMap :=
  connectionNames.foldl HeaderMap.remove headers

def prepareStreamingResponseHeaders (headers : HeaderMap) : HeaderMap :=
  [ ("cache-control".toList, "no-cache, no-transform".toList),
    ("x-accel-buffering".toList, "no".toList), ("Alt-Svc".toList, "clear".toList) ].foldl
      HeaderMap.insert
      (((stripHopByHopResponseHeaders headers).remove "content-length").remove
        "content-encoding")

end Grpc

def downstreamProtocolLabel (session : Session) : Text :=
  if session.isHttp2 then "h2" else "http/1.1"

def Process.appName (process : Process) : Text :=
  if process.ingress then "ingress" else "proxy"

def isSseResponse (response : ResponseHeader) : Bool :=
  match response.headers.getStr "content-type" with
  | some contentType => Text.startsWith contentType "text/event-stream"
  | none => false

namespace RequestCtx

def noteStream (ctx : RequestCtx) (response : ResponseHeader) : RequestCtx :=
  if isSseResponse response then { ctx with isLongLivedStream := true } else ctx

end RequestCtx

namespace Gateway

def announcement (port : Nat) : Text :=
  "h3=\":".toList ++ Text.ofNat port ++ "\"; ma=86400; persist=1, h3-29=\":".toList ++
    Text.ofNat port ++ "\"; ma=86400; persist=1".toList

def altSvcHeaderValue (gateway : Gateway) (host : Text) (ctx : RequestCtx) : Option Text :=
  if ctx.isGrpc || ctx.isLongLivedStream || Grpc.isMachineApiHost host then
    some "clear"
  else if gateway.enableH3 then some (announcement gateway.h3Port)
  else none

section

variable (gateway : Gateway) (session : Session)

def ownHeaders : List (Text × Text) :=
  [ ("Server".toList, "pertisk-proxy/".toList ++ downstreamProtocolLabel session),
    ("X-App-Name".toList, gateway.process.appName) ]

def upstreamResponseFilter (response : ResponseHeader) (ctx : RequestCtx) :
    ResponseHeader × RequestCtx :=
  let headers := (ownHeaders gateway session).foldl HeaderMap.insert response.headers
  let ctx := ctx.noteStream { response with headers }
  let headers :=
    if Registry.isOciRegistryPath session.req.uri.path then
      Registry.prepareRegistryResponseHeaders headers (isDownstreamTls session)
    else
      match altSvcHeaderValue gateway (requestHost session.req) ctx with
      | some altSvc => headers.insert ("Alt-Svc".toList, altSvc)
      | none =>
        if isDownstreamTls session then headers.insert ("Alt-Svc".toList, "clear".toList)
        else headers
  ({ response with headers := ctx.responseHeaders.foldl HeaderMap.insert headers }, ctx)

def downstreamHeaders (response : ResponseHeader) (ctx : RequestCtx) : HeaderMap :=
  let streaming := ctx.isLongLivedStream ||
    (ctx.isGrpc && Grpc.isGrpcServerStreaming session.req.uri.path)
  if ctx.isWebsocket || response.status == 101 then response.headers
  else if streaming && response.isSuccess then
    Grpc.prepareStreamingResponseHeaders response.headers
  else if ctx.isGrpc || ctx.isLongLivedStream || session.isHttp2 then
    Grpc.stripHopByHopResponseHeaders response.headers
  else response.headers

def isCacheable (response : ResponseHeader) : Bool :=
  response.isSuccess &&
    match response.headers.getStr "cache-control" with
    | some value =>
      let value := Text.toAsciiLowercase value
      !Text.contains value "no-store" && !Text.contains value "private"
    | none => true

def noteResponse (response : ResponseHeader) (ctx : RequestCtx) : RequestCtx :=
  let ctx := { ctx with cacheStatus := response.status }
  if ctx.cacheCollect then
    if isCacheable response then
      { ctx with
        cacheType := (response.headers.getStr "content-type").getD "application/octet-stream" }
    else { ctx with cacheCollect := false }
  else ctx

def chargeResponse (response : ResponseHeader) (ctx : RequestCtx) (now : Nat)
    (windows : Windows) : Windows :=
  if 400 ≤ response.status && response.status < 500 then
    match ctx.rateClient, ctx.rateHost with
    | some ip, some host => note4xx now ip host windows
    | _, _ => windows
  else windows

def responseFilter (moment : Moment) (response : ResponseHeader) (state : FilterState) :
    ResponseHeader × FilterState :=
  let state := state.arrive moment
  let ctx := state.ctx.noteStream response
  let response := { response with headers := downstreamHeaders session response ctx }
  let world := state.passage.world
  let windows := chargeResponse response ctx moment.clock.unixSecs world.windows
  (response,
    { state with
      ctx := noteResponse response ctx
      passage := { state.passage with world := { world with windows } } })

end

/-- Collect a piece of the body; a body over the limit is given up. -/
def collectBody (chunk : Option Bytes) (ctx : RequestCtx) : RequestCtx :=
  match chunk with
  | some chunk =>
    if ctx.cacheBody.length + chunk.length ≤ maxEntryBytes then
      { ctx with cacheBody := ctx.cacheBody ++ chunk }
    else { ctx with cacheCollect := false, cacheBody := [] }
  | none => ctx

def collected (ctx : RequestCtx) : CachedResponse where
  status := ctx.cacheStatus
  headers := [("content-type".toList, ctx.cacheType),
    ("content-length".toList, Text.ofNat ctx.cacheBody.length)]
  body := ctx.cacheBody

def cacheTtl (globals : EdgeGlobals) : Nat :=
  Instant.ofSecs (max globals.cacheTtlSecs 1)

def cacheMaxBytes (globals : EdgeGlobals) : Nat :=
  min (globals.cacheSizeMb * 1048576) u64Max

def responseBodyFilter (eviction : Eviction) (moment : Moment) (chunk : Option Bytes)
    (endOfStream : Bool) (state : FilterState) : FilterState :=
  let state := state.arrive moment
  if state.ctx.cacheCollect then
    let ctx := collectBody chunk state.ctx
    if endOfStream && ctx.cacheCollect then
      match ctx.cacheKey with
      | some key =>
        let globals := moment.router.table.globals
        let world := state.passage.world
        let cache := cachePut eviction moment.clock.instant key (collected ctx)
          (cacheTtl globals) (cacheMaxBytes globals) world.cache
        { state with
          ctx := { ctx with cacheBody := [] }
          passage := { state.passage with world := { world with cache } } }
      | none => { state with ctx }
    else { state with ctx }
  else state

/-- An error a request ended with; a benign one is a client that went away. -/
structure Failure where
  benign : Bool
  message : Text
deriving DecidableEq

inductive LogEntry where
  | response (host path upstream : Text) (status durationMs : Nat) (protocol : Text)
      (encoding : Option Text) (method : Text)
  | error (host path upstream message : Text)
deriving DecidableEq

def protocolShort (session : Session) : Text :=
  if session.isHttp2 then "2" else "1.1"

def elapsedMillis (now started : Instant) : Nat :=
  (now.durationSince started / 1000000) % (u64Max + 1)

def durationMs (now : Instant) (ctx : RequestCtx) : Nat :=
  match ctx.logStarted with
  | some started => elapsedMillis now started
  | none => 0

def logging (session : Session) (logEnabled : Bool) (failure : Option Failure)
    (written : Option ResponseHeader) (now : Instant) (ctx : RequestCtx) : Option LogEntry :=
  let host := requestHost session.req
  let path := session.req.target
  let upstream := ctx.logUpstream.getD "-"
  if !logEnabled || host.isEmpty then none
  else
    match failure with
    | some error => if error.benign then none else some (.error host path upstream error.message)
    | none =>
      some (.response host path upstream ((written.map ResponseHeader.status).getD 0)
        (durationMs now ctx) (protocolShort session)
        (written.bind fun response => response.headers.getStr "content-encoding")
        session.req.method)

end Gateway

/-! ## What becomes of a header -/

open HeaderMap List

def clearValue : Bytes := Text.asBytes "clear"

namespace Gateway

section

variable (gateway : Gateway) (session : Session) (found : RequestClass)
  (routeHeaders : List (Text × Text)) (response : ResponseHeader) (name : Text)

/-- HTTP/3 is not announced for the request or the response. -/
def withdrawsH3 : Bool :=
  Registry.isOciRegistryPath session.req.uri.path || found.isGrpc || found.isLongLivedStream ||
    isSseResponse response || Grpc.isMachineApiHost (requestHost session.req)

def altSvcFate : Option (List Bytes) :=
  if withdrawsH3 session found response then writes "alt-svc" [clearValue] name
  else if gateway.enableH3 then writes "alt-svc" [(announcement gateway.h3Port).asBytes] name
  else if isDownstreamTls session then writes "alt-svc" [clearValue] name
  else none

/-- Where a registry redirects to on a secure connection. -/
def registryLocation : Option Text :=
  if Registry.isOciRegistryPath session.req.uri.path then
    (response.headers.getStr "location").bind
      (rewriteRegistryLocationValue · (isDownstreamTls session))
  else none

/-- What the first filter leaves under a name. -/
def upstreamFate : Option (List Bytes) :=
  ((registryLocation session response).bind fun https =>
      writes "location" (headerValue https).toList name).or <|
    (altSvcFate gateway session found response name).or <|
    (if Registry.isOciRegistryPath session.req.uri.path then writes "set-cookie" [] name
    else none).or <|
    (writes "x-app-name" [gateway.process.appName.asBytes] name).or
      (writes "server" [Text.asBytes ("pertisk-proxy/".toList ++ downstreamProtocolLabel session)]
        name)

/-- What the second filter leaves under a name. WebSockets are left alone. -/
def downstreamFate : Option (List Bytes) :=
  let streaming := found.isLongLivedStream ||
    (found.isGrpc && Grpc.isGrpcServerStreaming session.req.uri.path)
  if found.isWebsocket || response.status == 101 then none
  else if streaming && response.isSuccess then
    (writes "alt-svc" [clearValue] name).or <|
      (writes "x-accel-buffering" [Text.asBytes "no"] name).or <|
      (writes "cache-control" [Text.asBytes "no-cache, no-transform"] name).or <|
      (writes "content-encoding" [] name).or <| (writes "content-length" [] name).or
        (takesAway Grpc.connectionNames name)
  else if found.isGrpc || found.isLongLivedStream || session.isHttp2 then
    takesAway Grpc.connectionNames name
  else none

/-- The response is a stream, as the upstream or the headers of the route declare it. -/
def longLived : Bool :=
  found.isLongLivedStream || isSseResponse response ||
    isSseResponse { response with headers := routeHeaders.foldl insert response.headers }

/-- What the gateway leaves under a name, by the class of the request, the response headers of
the route, and the response of the upstream; nothing where the upstream's own values stay. -/
def fate : Option (List Bytes) :=
  let streamed := { found with isLongLivedStream := longLived found routeHeaders response }
  (downstreamFate session streamed response name).or <|
    (sets routeHeaders name).or (upstreamFate gateway session found response name)

end

end Gateway

theorem values_prepareRegistryResponseHeaders (headers : HeaderMap) (downstreamTls : Bool)
    (name : Text) : values (prepareRegistryResponseHeaders headers downstreamTls) name =
      ((((headers.getStr "location").bind (rewriteRegistryLocationValue · downstreamTls)).bind
          fun https => writes "location" (headerValue https).toList name).or <|
        (writes "alt-svc" [clearValue] name).or (writes "set-cookie" [] name)).getD
          (headers.values name) := by
  let cleared := (headers.remove "set-cookie").insert ("Alt-Svc".toList, "clear".toList)
  have clears : ∀ name, cleared.values name =
      ((writes "alt-svc" [clearValue] name).or (writes "set-cookie" [] name)).getD
        (headers.values name) := by
    intro name
    rw [values_insert_valid (show headerName "Alt-Svc".toList = some "alt-svc".toList from rfl)
      (show headerValue "clear".toList = some clearValue from rfl), values_remove, Option.getD_or]
  have located : cleared.getStr "location" = headers.getStr "location" :=
    getStr_eq_of_values (clears "location")
  unfold prepareRegistryResponseHeaders
  cases downstreamTls with
  | false =>
    have still : (headers.getStr "location").bind (rewriteRegistryLocationValue · false) =
        none := by
      cases headers.getStr "location" <;> rfl
    rw [still]
    exact clears name
  | true =>
    change values (rewriteRegistryLocationToHttps cleared) name = _
    rw [rewriteRegistryLocationToHttps, located, Option.getD_or]
    cases (headers.getStr "location").bind (rewriteRegistryLocationValue · true) with
    | none => exact clears name
    | some https =>
      have dropped := values_remove cleared "location" name
      rw [← clears, Option.bind_some]
      cases valued : headerValue https with
      | none =>
        rw [values_insert, valued, Option.map_none, ite_self]
        exact dropped
      | some value =>
        rw [values_insert_valid rfl valued, dropped, ← Option.getD_or]
        exact congrArg (Option.getD · _) (writes_or ..)

theorem printable_digits (value : Nat) : Printable (Text.ofNat value) := by
  intro c member
  have digit := Text.isDigit_of_mem_ofNat member
  simp only [Char.isDigit, Bool.and_eq_true, decide_eq_true_eq] at digit
  have lower : 48 ≤ c.toNat := digit.1
  have upper : c.toNat ≤ 57 := digit.2
  exact .inl (by omega)

theorem printable_announcement (port : Nat) : Printable (Gateway.announcement port) := by
  have opening : Printable "h3=\":".toList := printable_of_all (by decide)
  have middle : Printable "\"; ma=86400; persist=1, h3-29=\":".toList :=
    printable_of_all (by decide)
  have ending : Printable "\"; ma=86400; persist=1".toList := printable_of_all (by decide)
  exact printable_append (printable_append (printable_append
    (printable_append opening (printable_digits port)) middle) (printable_digits port)) ending

section

variable (gateway : Gateway) (session : Session) (response : ResponseHeader) (ctx : RequestCtx)
  (name : Text)

theorem noteStream_class : (ctx.noteStream response).toRequestClass =
    { ctx.toRequestClass with
      isLongLivedStream := ctx.isLongLivedStream || isSseResponse response } := by
  unfold RequestCtx.noteStream
  cases isSseResponse response <;> simp

theorem values_ownHeaders (headers : HeaderMap) :
    values ((gateway.ownHeaders session).foldl insert headers) name =
      ((writes "x-app-name" [gateway.process.appName.asBytes] name).or
        (writes "server" [Text.asBytes ("pertisk-proxy/".toList ++
          downstreamProtocolLabel session)] name)).getD (headers.values name) := by
  have server : headerValue ("pertisk-proxy/".toList ++ downstreamProtocolLabel session) =
      some (Text.asBytes ("pertisk-proxy/".toList ++ downstreamProtocolLabel session)) := by
    unfold downstreamProtocolLabel
    cases session.isHttp2 <;> rfl
  have app : headerValue gateway.process.appName = some gateway.process.appName.asBytes := by
    unfold Process.appName
    cases gateway.process.ingress <;> rfl
  rw [Gateway.ownHeaders, foldl_cons, foldl_cons, foldl_nil, values_insert_valid rfl app,
    values_insert_valid rfl server, Option.getD_or]
  rfl

theorem upstreamResponseFilter_ctx :
    (gateway.upstreamResponseFilter session response ctx).2 = ctx.noteStream response := by
  have typed : getStr ((gateway.ownHeaders session).foldl insert response.headers)
      "content-type" = response.headers.getStr "content-type" :=
    getStr_eq_of_values (values_ownHeaders gateway session _ _)
  change ctx.noteStream { response with
    headers := (gateway.ownHeaders session).foldl insert response.headers } = _
  rw [RequestCtx.noteStream, RequestCtx.noteStream, isSseResponse, isSseResponse, typed]

theorem values_upstreamResponseFilter :
    (gateway.upstreamResponseFilter session response ctx).1.headers.values name =
      ((sets ctx.responseHeaders name).or
        (gateway.upstreamFate session ctx.toRequestClass response name)).getD
          (response.headers.values name) := by
  let own := (gateway.ownHeaders session).foldl insert response.headers
  have owned := fun name => values_ownHeaders gateway session name response.headers
  have noted : ctx.noteStream { response with headers := own } = ctx.noteStream response :=
    upstreamResponseFilter_ctx gateway session response ctx
  have located : own.getStr "location" = response.headers.getStr "location" :=
    getStr_eq_of_values (owned "location")
  have policies : (ctx.noteStream response).responseHeaders = ctx.responseHeaders := by
    rw [RequestCtx.noteStream]
    split <;> rfl
  have cleared := fun headers : HeaderMap => values_insert_valid
    (show headerName "Alt-Svc".toList = some "alt-svc".toList from rfl)
    (show headerValue "clear".toList = some clearValue from rfl) headers name
  have announced := fun headers : HeaderMap => values_insert_valid
    (show headerName "Alt-Svc".toList = some "alt-svc".toList from rfl)
    (headerValue_of_printable (printable_announcement gateway.h3Port)) headers name
  have filtered : (gateway.upstreamResponseFilter session response ctx).1.headers =
      (ctx.noteStream { response with headers := own }).responseHeaders.foldl insert
        (if Registry.isOciRegistryPath session.req.uri.path then
          prepareRegistryResponseHeaders own (isDownstreamTls session)
        else
          match gateway.altSvcHeaderValue (requestHost session.req)
            (ctx.noteStream { response with headers := own }) with
          | some altSvc => own.insert ("Alt-Svc".toList, altSvc)
          | none =>
            if isDownstreamTls session then own.insert ("Alt-Svc".toList, "clear".toList)
            else own) := rfl
  rw [filtered, noted, policies, values_foldl_insert, Option.getD_or]
  congr 1
  unfold Gateway.upstreamFate Gateway.registryLocation Gateway.altSvcFate Gateway.withdrawsH3
  cases Registry.isOciRegistryPath session.req.uri.path with
  | true =>
    simp only [if_true, Bool.true_or]
    rw [values_prepareRegistryResponseHeaders, located, owned, ← Option.getD_or,
      Option.or_assoc, Option.or_assoc]
  | false =>
    have stream := noteStream_class response ctx
    simp only [Bool.false_eq_true, if_false, Bool.false_or, Option.bind_none, Option.none_or]
    rw [Option.getD_or, ← owned, Gateway.altSvcHeaderValue, congrArg RequestClass.isGrpc stream,
      congrArg RequestClass.isLongLivedStream stream, ← Bool.or_assoc]
    cases ctx.isGrpc || ctx.isLongLivedStream || isSseResponse response ||
      Grpc.isMachineApiHost (requestHost session.req) with
    | true => exact cleared own
    | false =>
      cases gateway.enableH3 with
      | true => exact announced own
      | false =>
        cases isDownstreamTls session with
        | true => exact cleared own
        | false => rfl

theorem values_downstreamHeaders :
    (Gateway.downstreamHeaders session response ctx).values name =
      (Gateway.downstreamFate session ctx.toRequestClass response name).getD
        (response.headers.values name) := by
  unfold Gateway.downstreamHeaders Gateway.downstreamFate
  dsimp only
  split
  · rfl
  · split
    · rw [Grpc.prepareStreamingResponseHeaders, foldl_cons, foldl_cons, foldl_cons, foldl_nil,
        values_insert_valid rfl rfl, values_insert_valid rfl rfl, values_insert_valid rfl rfl,
        values_remove, values_remove, Grpc.stripHopByHopResponseHeaders, values_foldl_remove]
      simp only [Option.getD_or]
      rfl
    · split
      · exact values_foldl_remove ..
      · rfl

theorem upstreamFate_contentType :
    gateway.upstreamFate session ctx.toRequestClass response "content-type" = none := by
  unfold Gateway.upstreamFate Gateway.altSvcFate
  cases Gateway.registryLocation session response <;> split <;> split <;> try rfl
  all_goals split <;> try rfl
  all_goals split <;> rfl

theorem values_responseFilter (moment : Moment) (state : FilterState) :
    let received := gateway.upstreamResponseFilter session response state.ctx
    (Gateway.responseFilter session moment received.1
      { state with ctx := received.2 }).1.headers.values name =
        (gateway.fate session state.ctx.toRequestClass state.ctx.responseHeaders response
          name).getD (response.headers.values name) := by
  intro received
  have typed : isSseResponse received.1 = isSseResponse { response with
      headers := state.ctx.responseHeaders.foldl insert response.headers } := by
    have same : received.1.headers.getStr "content-type" =
        getStr (state.ctx.responseHeaders.foldl insert response.headers) "content-type" := by
      apply getStr_eq_of_values
      rw [values_upstreamResponseFilter, upstreamFate_contentType, Option.or_none,
        values_foldl_insert]
    rw [isSseResponse, isSseResponse, same]
  have streamed : (received.2.noteStream received.1).toRequestClass =
      { state.ctx.toRequestClass with
        isLongLivedStream := Gateway.longLived state.ctx.toRequestClass
          state.ctx.responseHeaders response } := by
    rw [noteStream_class, typed, upstreamResponseFilter_ctx, noteStream_class]
    rfl
  change values (Gateway.downstreamHeaders session received.1
    (received.2.noteStream received.1)) name = _
  rw [values_downstreamHeaders, streamed, values_upstreamResponseFilter, ← Option.getD_or]
  rfl

end

end PertiskProxy.Proxy
