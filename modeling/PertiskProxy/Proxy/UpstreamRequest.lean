import PertiskProxy.Proxy.Gateway

/-! What the gateway sends on (`proxy/mod.rs`): the client's headers with those of the
proxy and of the route, prepared for registries (`proxy/registry.rs`) and for gRPC
(`proxy/grpc.rs`). -/

namespace PertiskProxy.Proxy

open Http Net Text HeaderLines List Option

def forwardedClientIpHeaderPairs (clientIp : Text) (existingXff : Option Text) :
    List (Text × Text) :=
  let xff := match trimmedNonEmpty existingXff with
    | some existing => existing ++ ", ".toList ++ clientIp
    | none => clientIp
  [("X-Real-IP".toList, clientIp), ("X-Forwarded-For".toList, xff)]

structure UpstreamRequest where
  method : Text
  uri : Uri
  lines : HeaderLines
deriving DecidableEq

/-! ## Registries -/

namespace Registry

def forwardProtoPortSsl (downstreamTls : Bool) : Text × Text × Text :=
  if downstreamTls then ("https".toList, "443".toList, "on".toList)
  else ("http".toList, "80".toList, "off".toList)

/-- Layer blob upload or commit, with a large request body. -/
def isRegistryBlobUpload (method path : Text) : Bool :=
  let path := before '?' path
  (method == "PUT".toList || method == "PATCH".toList) &&
    (path == "/v2".toList || contains path "/v2/") &&
    contains path "/blobs/uploads/"

def registryUpstreamHeaderPairs (host method path : Text) (clientIp : Option Text)
    (downstreamTls : Bool) : List (Text × Text) :=
  let (proto, port, ssl) := forwardProtoPortSsl downstreamTls
  let client := match clientIp.filter fun ip => !ip.isEmpty with
    | some ip => [("X-Real-IP".toList, ip), ("X-Forwarded-For".toList, ip)]
    | none => []
  let upload := if isRegistryBlobUpload method path then
      [("Connection".toList, "close".toList)]
    else []
  [("X-Forwarded-Proto".toList, proto), ("X-Forwarded-Host".toList, host),
    ("X-Forwarded-Port".toList, port), ("X-Forwarded-Ssl".toList, ssl),
    ("Accept-Encoding".toList, "identity".toList)] ++ client ++ upload

/-- Harbor answers 405 to POST on the token endpoint; clients that post without a
body mean GET. -/
def normalizeRegistryTokenRequest (upstream : UpstreamRequest) : UpstreamRequest :=
  if upstream.method != "POST".toList || upstream.uri.path != "/service/token".toList then
    upstream
  else
    let hasQuery := upstream.uri.query.any fun query => !query.isEmpty
    let contentLength := (upstream.lines.getStr "content-length").getD "0"
    let bodyEmpty := contentLength == "0".toList || contentLength.isEmpty
    if hasQuery || bodyEmpty then
      { upstream with method := "GET", lines := upstream.lines.remove "content-length" }
    else upstream

def strippedHeaders : List Text :=
  ["cookie", "x-forwarded-host", "x-forwarded-port", "x-forwarded-proto", "x-forwarded-ssl",
    "x-real-ip", "x-forwarded-for"]

/-- Remove session cookies; apply the forwarding headers Harbor expects. -/
def prepareRegistryUpstreamRequest (lines : HeaderLines) (method path host : Text)
    (clientIp : Option Text) (downstreamTls : Bool) : HeaderLines :=
  (registryUpstreamHeaderPairs host method path clientIp downstreamTls).foldl
    (insert .proxy) (strippedHeaders.foldl remove lines)

end Registry

/-! ## gRPC -/

namespace Grpc

def mergeCookieHeaders (lines : HeaderLines) : HeaderLines :=
  let values := (lines.named "cookie").filterMap fun line =>
    trimmedNonEmpty (headerToStr line.value)
  if values.length ≤ 1 then lines
  else
    (lines.remove "cookie").insert .client
      ("cookie".toList, "; ".toList.intercalate values)

def rebuildUpstreamPath (uri : Uri) (newPath : Text) : Uri :=
  { uri with
    pathAndQuery := newPath ++ match uri.query with
      | some query => '?' :: query
      | none => [] }

def rewriteUpstreamGrpcPath (uri : Uri) : Uri :=
  match stripPrefix uri.path "/api/" with
  | some stripped =>
    rebuildUpstreamPath uri
      (if stripped.isEmpty then "/" else '/' :: trimStartMatches (· == '/') stripped)
  | none => if uri.path == "/api".toList then rebuildUpstreamPath uri "/" else uri

def prepareUpstreamStreamingRequest (lines : HeaderLines) : HeaderLines :=
  lines.insert .proxy ("accept-encoding".toList, "identity".toList)

def hopByHop : List Text :=
  ["connection", "upgrade", "transfer-encoding", "keep-alive", "proxy-connection"]

def prepareUpstreamRequest (lines : HeaderLines) (isGrpcWeb : Bool) : HeaderLines :=
  let lines := hopByHop.foldl remove lines
  if !isGrpcWeb && (lines.named "te").isEmpty then
    lines.insert .proxy ("te".toList, "trailers".toList)
  else lines

end Grpc

/-! ## The filter -/

def injectForwardedClientIp (lines : HeaderLines) (clientIp : Text) : HeaderLines :=
  (forwardedClientIpHeaderPairs clientIp (lines.getStr "x-forwarded-for")).foldl
    (insert .proxy) lines

namespace Gateway

section

variable (session : Session) (ctx : RequestCtx)

def hostLines : HeaderLines :=
  let host := requestHost session.req
  let lines := ofMap session.req.headers
  let lines := if host.isEmpty then lines else lines.insert .proxy ("Host".toList, host)
  if !ctx.isRegistry && isDownstreamTls session then
    (lines.insert .proxy ("X-Forwarded-Proto".toList, "https".toList)).insert .proxy
      ("X-Forwarded-Host".toList, host)
  else lines

def forwardingLines : HeaderLines :=
  if ctx.isRegistry then hostLines session ctx
  else
    match sessionClientIp session with
    | some ip => injectForwardedClientIp (hostLines session ctx) ip
    | none => hostLines session ctx

/-- The target without the route's prefix; the query is lost with it. -/
def strippedUri (uri : Uri) : Uri :=
  let stripped := if ctx.isGrpcWeb then none
    else ctx.stripPrefix.bind (stripPrefix uri.path)
  match stripped with
  | some rest => { uri with pathAndQuery := if rest.isEmpty then "/".toList else rest }
  | none => uri

def routeLines : HeaderLines :=
  Grpc.mergeCookieHeaders
    (ctx.requestHeaders.foldl (insert .route) (forwardingLines session ctx))

/-- The address of the connection, as registries are told it. -/
def socketClientIp : Option Text :=
  (session.clientAddr.bind SocketAddr.ip).map IpAddr.toText

def registryRequest (upstream : UpstreamRequest) : UpstreamRequest :=
  if Registry.isOciRegistryPath upstream.uri.path then
    let upstream := Registry.normalizeRegistryTokenRequest upstream
    { upstream with
      lines := Registry.prepareRegistryUpstreamRequest upstream.lines upstream.method
        upstream.uri.path (requestHost session.req) (socketClientIp session)
        (isDownstreamTls session) }
  else upstream

def streamingRequest (upstream : UpstreamRequest) : UpstreamRequest :=
  let lines := if ctx.isGrpc || ctx.isLongLivedStream then
      Grpc.prepareUpstreamStreamingRequest upstream.lines
    else upstream.lines
  if ctx.isGrpc then
    { upstream with
      uri := if ctx.isGrpcWeb then upstream.uri else Grpc.rewriteUpstreamGrpcPath upstream.uri
      lines := Grpc.prepareUpstreamRequest lines ctx.isGrpcWeb }
  else { upstream with lines }

def upstreamRequestFilter : UpstreamRequest :=
  streamingRequest ctx (registryRequest session
    { method := session.req.method
      uri := strippedUri ctx session.req.uri
      lines := routeLines session ctx })

end

end Gateway

/-! ## Headers that name the client -/

def IsClientHeader (name : Text) : Prop :=
  name = "x-real-ip".toList ∨ name = "x-forwarded-for".toList

theorem printable_of_address (address : IpAddr) : Printable address.toText := by
  have letters : ∀ digit < 16, 32 ≤ (Nat.digitChar digit).toNat ∧
      (Nat.digitChar digit).toNat < 127 := by decide
  intro c member
  rcases IpAddr.mem_toText member with rfl | rfl | ⟨digit, small, rfl⟩
  · exact .inl (by decide)
  · exact .inl (by decide)
  · exact .inl (letters digit small)

theorem parse_forwardedClientIpHeaderPairs (client : Printable clientIp)
    (existing : ∀ xff ∈ existingXff, Printable xff) (origin : HeaderOrigin) :
    ∃ value, (forwardedClientIpHeaderPairs clientIp existingXff).mapM (HeaderLine.parse origin) =
      some [⟨"x-real-ip", clientIp.asBytes, origin⟩, ⟨"x-forwarded-for", value, origin⟩] := by
  have forwarded : ∃ xff, Printable xff ∧ forwardedClientIpHeaderPairs clientIp existingXff =
      [("X-Real-IP".toList, clientIp), ("X-Forwarded-For".toList, xff)] := by
    unfold forwardedClientIpHeaderPairs
    split
    · next trimmed found =>
      rcases map_eq_some_iff.mp (filter_eq_some_iff.mp found).1 with
        ⟨xff, given, rfl⟩
      have separated : Printable ", " := printable_of_all (by decide)
      exact ⟨_, printable_append (printable_append (printable_trim (existing xff given))
        separated) client, rfl⟩
    · exact ⟨_, client, rfl⟩
  rcases forwarded with ⟨xff, printable, pairs⟩
  refine ⟨xff.asBytes, ?_⟩
  have first := @HeaderLine.parse_of_printable "X-Real-IP" "x-real-ip" clientIp (by decide) client
    origin
  have second := @HeaderLine.parse_of_printable "X-Forwarded-For" "x-forwarded-for" xff
    (by decide) printable origin
  rw [pairs, mapM_cons, mapM_cons, mapM_nil, first, second]
  rfl

theorem named_injectForwardedClientIp (lines : HeaderLines) (client : Printable clientIp) :
    (injectForwardedClientIp lines clientIp).named "x-real-ip" =
        [⟨"x-real-ip", clientIp.asBytes, .proxy⟩] ∧
      ∃ value, (injectForwardedClientIp lines clientIp).named "x-forwarded-for" =
        [⟨"x-forwarded-for", value, .proxy⟩] := by
  have existing : ∀ xff ∈ lines.getStr "x-forwarded-for", Printable xff := by
    intro xff found
    rcases bind_eq_some_iff.mp found with ⟨line, -, text⟩
    exact printable_of_headerToStr text
  rcases parse_forwardedClientIpHeaderPairs client existing .proxy with ⟨value, parsed⟩
  have kept := Fallible.filterMap_of_mapM parsed
  unfold injectForwardedClientIp
  rw [named_foldl_insert, named_foldl_insert, kept]
  exact ⟨rfl, value, rfl⟩

open Registry

theorem named_prepareRegistryUpstreamRequest (client : IsClientHeader name)
    (lines : HeaderLines) (method path host : Text) (address : Option IpAddr)
    (downstreamTls : Bool) :
    (prepareRegistryUpstreamRequest lines method path host (address.map IpAddr.toText)
      downstreamTls).named name =
      (address.map fun ip => (⟨name, ip.toText.asBytes, .proxy⟩ : HeaderLine)).toList := by
  have stripped : name ∈ strippedHeaders := by
    rcases client with rfl | rfl <;> decide
  have others : ∀ other ∈ ["X-Forwarded-Proto".toList, "X-Forwarded-Host".toList,
      "X-Forwarded-Port".toList, "X-Forwarded-Ssl".toList, "Accept-Encoding".toList,
      "Connection".toList], headerName other ≠ some name := by
    rcases client with rfl | rfl <;> decide
  simp only [forall_mem_cons] at others
  rcases others with ⟨proto, forwardedHost, port, ssl, encoding, connection, -⟩
  have upload : named ((if isRegistryBlobUpload method path then
        [("Connection".toList, "close".toList)] else []).filterMap
          (HeaderLine.parse .proxy)) name = [] := by
    apply named_parse_of_ne
    split
    · simpa using connection
    · simp
  unfold prepareRegistryUpstreamRequest registryUpstreamHeaderPairs
  rw [named_foldl_insert, named_foldl_remove, if_pos stripped]
  simp only [filterMap_append, named_append]
  rw [upload, named_parse_of_ne (by
    simp only [forall_mem_cons]
    exact ⟨proto, forwardedHost, port, ssl, encoding, by simp⟩), nil_append, append_nil]
  cases address with
  | none => rfl
  | some ip =>
    have kept : (Option.map IpAddr.toText (some ip)).filter (fun text => !text.isEmpty) =
        some ip.toText := by
      simpa using ip.toText_ne_nil
    rw [kept]
    rw [filterMap_cons_some (HeaderLine.parse_of_printable
        (show headerName "X-Real-IP" = some "x-real-ip".toList by decide)
        (printable_of_address ip) .proxy),
      filterMap_cons_some (HeaderLine.parse_of_printable
        (show headerName "X-Forwarded-For" = some "x-forwarded-for".toList by decide)
        (printable_of_address ip) .proxy), filterMap_nil]
    rcases client with rfl | rfl <;> rfl

namespace Gateway

variable {session : Session} {ctx : RequestCtx}

theorem named_hostLines (client : IsClientHeader name) :
    (hostLines session ctx).named name = (ofMap session.req.headers).named name := by
  have host : headerName "Host" ≠ some name := by
    rcases client with rfl | rfl <;> decide
  have proto : headerName "X-Forwarded-Proto" ≠ some name := by
    rcases client with rfl | rfl <;> decide
  have forwardedHost : headerName "X-Forwarded-Host" ≠ some name := by
    rcases client with rfl | rfl <;> decide
  unfold hostLines
  dsimp only
  split
  · rw [named_insert_of_ne forwardedHost, named_insert_of_ne proto]
    split
    · rfl
    · exact named_insert_of_ne host _ _
  · split
    · rfl
    · exact named_insert_of_ne host _ _

theorem named_forwardingLines_known (general : ctx.isRegistry = false)
    (known : sessionClientIp session = some ip) :
    (forwardingLines session ctx).named "x-real-ip" = [⟨"x-real-ip", ip.asBytes, .proxy⟩] ∧
      ∃ value, (forwardingLines session ctx).named "x-forwarded-for" =
        [⟨"x-forwarded-for", value, .proxy⟩] := by
  rcases resolveClientIp_printed known with ⟨address, rfl⟩
  have told := named_injectForwardedClientIp (hostLines session ctx) (printable_of_address address)
  simpa only [forwardingLines, general, Bool.false_eq_true, if_false, known] using told

theorem named_forwardingLines_unknown (unknown : sessionClientIp session = none)
    (client : IsClientHeader name) : (forwardingLines session ctx).named name =
      (ofMap session.req.headers).named name := by
  rw [← named_hostLines client, forwardingLines, unknown]
  split <;> rfl

section

variable (client : IsClientHeader name)

include client

open Grpc

theorem named_mergeCookieHeaders (lines : HeaderLines) :
    (mergeCookieHeaders lines).named name = lines.named name := by
  have cookie : "cookie".toList ≠ name := by rcases client with rfl | rfl <;> decide
  have parsed : headerName "cookie" ≠ some name := by rcases client with rfl | rfl <;> decide
  unfold mergeCookieHeaders
  dsimp only
  split
  · rfl
  · rw [named_insert_of_ne parsed, named_remove_of_ne cookie]

theorem named_streamingRequest
    (upstream : UpstreamRequest) :
    (streamingRequest ctx upstream).lines.named name = upstream.lines.named name := by
  have encoding : headerName "accept-encoding" ≠ some name := by
    rcases client with rfl | rfl <;> decide
  have te : headerName "te" ≠ some name := by rcases client with rfl | rfl <;> decide
  have hops : name ∉ hopByHop := by rcases client with rfl | rfl <;> decide
  have prepared : ∀ lines isGrpcWeb,
      (prepareUpstreamRequest lines isGrpcWeb).named name = lines.named name := by
    intro lines isGrpcWeb
    unfold prepareUpstreamRequest
    dsimp only
    split
    · rw [named_insert_of_ne te, named_foldl_remove, if_neg hops]
    · rw [named_foldl_remove, if_neg hops]
  have streamed : (if ctx.isGrpc || ctx.isLongLivedStream then
        prepareUpstreamStreamingRequest upstream.lines
      else upstream.lines).named name = upstream.lines.named name := by
    split
    · exact named_insert_of_ne encoding _ _
    · rfl
  unfold streamingRequest
  dsimp only
  split
  · rw [prepared, streamed]
  · exact streamed

theorem named_routeLines : (routeLines session ctx).named name =
      match (named (ctx.requestHeaders.filterMap (HeaderLine.parse .route))
        name).getLast? with
      | some line => [line]
      | none => (forwardingLines session ctx).named name := by
  rw [routeLines, named_mergeCookieHeaders client]
  exact named_foldl_insert ..

/-- What the upstream is told of the client: the address of the connection where the
path it gets is that of a registry, else what the route or the proxy says. -/
theorem named_upstreamRequestFilter :
    (upstreamRequestFilter session ctx).lines.named name =
      if isOciRegistryPath (strippedUri ctx session.req.uri).path then
        ((session.clientAddr.bind SocketAddr.ip).map fun ip =>
          (⟨name, ip.toText.asBytes, .proxy⟩ : HeaderLine)).toList
      else (routeLines session ctx).named name := by
  unfold upstreamRequestFilter
  rw [named_streamingRequest client]
  unfold registryRequest socketClientIp
  split
  · dsimp only
    exact named_prepareRegistryUpstreamRequest client _ _ _ _ _ _
  · rfl

end

end Gateway

/-! ## The target without a prefix -/

/-- A path and a query, as most requests name them. -/
structure RequestTarget where
  path : Text
  query : Option Text
  given : path ≠ []
  plain : '?' ∉ path

namespace RequestTarget

def queryText : Option Text → Text
  | some query => '?' :: query
  | none => []

def text (target : RequestTarget) : Text :=
  target.path ++ queryText target.query

theorem splitOnce_text (target : RequestTarget) :
    splitOnce '?' target.text = target.query.map (target.path, ·) := by
  unfold text
  cases target.query with
  | none =>
    rw [queryText, append_nil]
    exact splitOnce_eq_none.mpr target.plain
  | some query => exact splitOnce_eq_some.mpr ⟨rfl, target.plain⟩

theorem before_text (target : RequestTarget) : before '?' target.text = target.path := by
  unfold text
  cases target.query with
  | none => rw [queryText, append_nil, before_eq_self target.plain]
  | some query =>
    rw [queryText, before_append_separator, before_eq_self target.plain]

variable {target : RequestTarget} {uri : Uri} (named : uri.pathAndQuery = target.text)
include named

theorem path_of_named : uri.path = target.path := by
  obtain ⟨scheme, host, pathAndQuery⟩ := uri
  dsimp only at named
  have path : before '?' pathAndQuery = target.path := by rw [named, before_text]
  cases pathAndQuery with
  | nil => exact absurd (append_eq_nil_iff.mp named.symm).1 target.given
  | cons first rest =>
    change (if (before '?' (first :: rest)).isEmpty then "/".toList
      else before '?' (first :: rest)) = target.path
    rw [path, if_neg (by simpa using target.given)]

theorem query_of_named : uri.query = target.query := by
  rw [Uri.query, named, splitOnce_text, Option.map_map]
  cases target.query <;> rfl

end RequestTarget

def Session.aimedAt (session : Session) (target : RequestTarget) : Session :=
  { session with
    req := { session.req with uri := { session.req.uri with pathAndQuery := target.text } } }

/-- A request that is not gRPC-Web, on a route that strips a prefix. -/
def RequestCtx.stripping (ctx : RequestCtx) (lead : Text) : RequestCtx :=
  { ctx with stripPrefix := some lead, isGrpcWeb := false }

/-- The path of a native gRPC request that loses its `/api`. -/
def Grpc.InApiLayout (path : Text) : Prop :=
  path = "/api".toList ∨ startsWith path "/api/" = true

instance (path : Text) : Decidable (Grpc.InApiLayout path) :=
  inferInstanceAs (Decidable (_ ∨ _))

open RequestTarget

/-- The `/api` of a native gRPC request is removed, and its query stays. -/
theorem Grpc.length_rewriteUpstreamGrpcPath {target : RequestTarget} {uri : Uri}
    (named : uri.pathAndQuery = target.text) (layout : InApiLayout target.path) :
    (rewriteUpstreamGrpcPath uri).pathAndQuery.length < target.text.length := by
  have shortens : ∀ newPath : Text, newPath.length < target.path.length →
      (rebuildUpstreamPath uri newPath).pathAndQuery.length < target.text.length := by
    intro newPath shorter
    have rebuilt : (rebuildUpstreamPath uri newPath).pathAndQuery =
        newPath ++ queryText target.query := by
      rw [rebuildUpstreamPath, query_of_named named]
      cases target.query <;> rfl
    rw [rebuilt, text, length_append, length_append]
    omega
  rw [rewriteUpstreamGrpcPath, path_of_named named]
  split
  next stripped found =>
    have whole := stripPrefix_eq_some.mp found
    apply shortens
    rw [whole, length_append]
    have kept : (trimStartMatches (· == '/') stripped).length ≤ stripped.length :=
      (dropWhile_suffix _).length_le
    split <;> simp <;> omega
  next absent =>
    rcases layout with exact | below
    · rw [exact]
      apply shortens
      rw [exact]
      decide
    · obtain ⟨rest, whole⟩ := startsWith_iff.mp below
      rw [stripPrefix_eq_some.mpr whole.symm] at absent
      cases absent

theorem Grpc.rewriteUpstreamGrpcPath_of_other (other : ¬ InApiLayout uri.path) :
    rewriteUpstreamGrpcPath uri = uri := by
  rw [InApiLayout, not_or] at other
  rw [rewriteUpstreamGrpcPath]
  split
  next stripped found =>
    have whole := stripPrefix_eq_some.mp found
    exact absurd (startsWith_iff.mpr ⟨stripped, whole.symm⟩) other.2
  next => rw [if_neg (by simpa using other.1)]

namespace RequestTarget

variable (target : RequestTarget) (lead : Text)

theorem stripped_cases :
    strippedPath target.path lead = "/".toList ∨ strippedPath target.path lead ≠ [] ∧
      ∃ before, target.path = before ++ strippedPath target.path lead := by
  unfold strippedPath
  dsimp only
  split
  next => exact .inl rfl
  next nonempty =>
    refine .inr ⟨by simpa using nonempty, ?_⟩
    cases found : stripPrefix target.path lead with
    | none => exact ⟨[], rfl⟩
    | some rest => exact ⟨lead, stripPrefix_eq_some.mp found⟩

def stripped (target : RequestTarget) (lead : Text) : RequestTarget where
  path := strippedPath target.path lead
  query := target.query
  given := by
    rcases target.stripped_cases lead with slash | ⟨nonempty, -⟩
    · rw [slash]
      decide
    · exact nonempty
  plain := by
    rcases target.stripped_cases lead with slash | ⟨-, before, whole⟩
    · rw [slash]
      decide
    · intro member
      apply target.plain
      rw [whole]
      exact List.mem_append_right before member

theorem stripPathPrefix_text :
    stripPathPrefix target.text lead = (target.stripped lead).text := by
  rw [stripPathPrefix, before_text, splitOnce_text, text]
  unfold stripped strippedPath
  cases target.query with
  | none => exact (append_nil _).symm
  | some query => rfl

/-- The gateway loses the query with the prefix. -/
def sent (target : RequestTarget) (lead : Text) : RequestTarget :=
  { target.stripped lead with
    query := if startsWith target.path lead then none else target.query }

theorem length_sent_le :
    (target.sent lead).text.length ≤ (target.stripped lead).text.length := by
  unfold text sent
  split
  · simp [queryText]
  · exact Nat.le_refl _

theorem sent_text_iff :
    (target.sent lead).text = (target.stripped lead).text ↔
      target.query = none ∨ startsWith target.path lead = false := by
  unfold text sent
  rw [append_cancel_left_eq]
  change queryText (if _ then none else target.query) = queryText target.query ↔ _
  cases startsWith target.path lead with
  | false => simp
  | true => cases target.query <;> simp [queryText]

end RequestTarget

namespace Gateway

theorem upstreamRequestFilter_uri (session : Session) (ctx : RequestCtx) :
    (upstreamRequestFilter session ctx).uri =
      if ctx.isGrpc && !ctx.isGrpcWeb then
        Grpc.rewriteUpstreamGrpcPath (strippedUri ctx session.req.uri)
      else strippedUri ctx session.req.uri := by
  have registry : ∀ upstream, (registryRequest session upstream).uri = upstream.uri := by
    intro upstream
    have normalized : (normalizeRegistryTokenRequest upstream).uri = upstream.uri := by
      unfold normalizeRegistryTokenRequest
      split
      · rfl
      · dsimp only
        split <;> rfl
    unfold registryRequest
    split
    · exact normalized
    · rfl
  unfold upstreamRequestFilter streamingRequest
  cases ctx.isGrpc <;> cases ctx.isGrpcWeb <;> simp [registry]

variable (session : Session) (ctx : RequestCtx) (target : RequestTarget) (lead : Text)

theorem strippedUri_named :
    (strippedUri (ctx.stripping lead) (session.aimedAt target).req.uri).pathAndQuery =
      (target.sent lead).text := by
  have path : (session.aimedAt target).req.uri.path = target.path :=
    path_of_named rfl
  unfold strippedUri RequestCtx.stripping
  simp only [Bool.false_eq_true, if_false, bind_some, path]
  cases found : stripPrefix target.path lead with
  | none =>
    have kept : startsWith target.path lead = false := by
      by_contra starts
      obtain ⟨rest, whole⟩ := startsWith_iff.mp (Bool.not_eq_false _ ▸ starts)
      rw [stripPrefix_eq_some.mpr whole.symm] at found
      cases found
    have given := target.given
    simp [text, sent, kept, stripped,
      strippedPath, found, Session.aimedAt, given]
  | some rest =>
    have starts : startsWith target.path lead = true :=
      startsWith_iff.mpr ⟨rest, (stripPrefix_eq_some.mp found).symm⟩
    simp [text, sent, starts, queryText,
      stripped, strippedPath, found]

/-- What the gateway sends upstream is the target without the prefix, unless a query is
lost with the prefix, or the path is one that native gRPC requests lose their `/api` from. -/
theorem sent_stripped_iff :
    (upstreamRequestFilter (session.aimedAt target) (ctx.stripping lead)).uri.pathAndQuery =
      stripPathPrefix target.text lead ↔
    (target.query = none ∨ startsWith target.path lead = false) ∧
      ¬ (ctx.isGrpc = true ∧ Grpc.InApiLayout (strippedPath target.path lead)) := by
  have named := strippedUri_named session ctx target lead
  have native : ((ctx.stripping lead).isGrpc && !(ctx.stripping lead).isGrpcWeb) =
      ctx.isGrpc := Bool.and_true ctx.isGrpc
  rw [upstreamRequestFilter_uri, stripPathPrefix_text, native,
    ← target.sent_text_iff]
  by_cases rewritten : ctx.isGrpc = true ∧ Grpc.InApiLayout (strippedPath target.path lead)
  · have shorter := Grpc.length_rewriteUpstreamGrpcPath named rewritten.2
    have bounded := target.length_sent_le lead
    rw [if_pos rewritten.1]
    constructor
    · intro equal
      rw [equal] at shorter
      omega
    · exact fun holds => absurd rewritten holds.2
  have unchanged : (if ctx.isGrpc then Grpc.rewriteUpstreamGrpcPath
      (strippedUri (ctx.stripping lead) (session.aimedAt target).req.uri)
      else strippedUri (ctx.stripping lead) (session.aimedAt target).req.uri).pathAndQuery =
        (target.sent lead).text := by
    split
    next grpc =>
      rw [Grpc.rewriteUpstreamGrpcPath_of_other, named]
      rw [path_of_named named]
      exact fun layout => rewritten ⟨grpc, layout⟩
    next => exact named
  rw [unchanged]
  exact ⟨fun equal => ⟨equal, rewritten⟩, And.left⟩

/-- A search below `/shop` arrives at the upstream without its terms. -/
theorem query_lost_with_prefix : let session : Session :=
      { req := { method := "GET".toList, uri := { pathAndQuery := "/shop/find?q=tea".toList } } }
    let target : RequestTarget :=
      ⟨"/shop/find".toList, some "q=tea".toList, by decide, by decide⟩
    session.aimedAt target = session ∧
      (upstreamRequestFilter session (RequestCtx.stripping {} "/shop")).uri.pathAndQuery =
        "/find".toList ∧
      stripPathPrefix "/shop/find?q=tea".toList "/shop" = "/find?q=tea".toList := by
  refine ⟨rfl, ?_, by decide⟩
  decide

end Gateway

end PertiskProxy.Proxy
