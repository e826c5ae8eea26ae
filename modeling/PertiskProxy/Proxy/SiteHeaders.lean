import PertiskProxy.Proxy.Exchange
import PertiskProxy.Proxy.Origins

/-! A site can replace the security headers of the configuration, and it can turn the
announcement of HTTP/3 off (`proxy_config.rs`). -/

namespace PertiskProxy.Proxy

open Edge FilterChain Gateway Http ProxyConfig Router Text List Option

def effectiveSecurityHeaders (config : Config) (site : Site) : HashMap Text Text :=
  site.securityHeaders.getD config.securityHeaders

/-! ## Routes of sites set no response headers -/

section

variable {platform : Platform} {config : Config}

theorem responseHeaders_of_entryRoute
    (made : entryRoute platform config site target entry = .ok route) :
    (applyMiddlewares route.middlewares).responseHeaders = [] := by
  rcases Fallible.bind_eq_ok.mp made with ⟨_, -, equal⟩
  cases equal
  simp only [siteRoute]
  split
  · split <;> rfl
  · rfl

theorem responseHeaders_requestAction (built : configToRouteTable platform config = .ok table)
    (reorders : RouteTable.Reorders reordered table) :
    (requestAction reordered host pathAndQuery).responseHeaders = [] := by
  unfold requestAction
  cases found : reordered.matchRouteEntry host (before '?' pathAndQuery) with
  | none => rfl
  | some route =>
    rcases origin_of_matchRouteEntry built reorders found with ⟨key, origin, -, selected, rfl⟩
    rcases built_of_mem_origins (mem_origins_of_selectedOrigin selected) with
      ⟨-, -, target, -, made⟩
    have plain := responseHeaders_of_entryRoute made
    simp only [map_some, getD_some, routeAction, plannedMiddleware]
    split <;> exact plain

end

/-! ## What becomes of `Alt-Svc` -/

section

variable {gateway : Gateway} {session : Session} {found : RequestClass} {response : ResponseHeader}

theorem upstreamFate_altSvc : gateway.upstreamFate session found response "alt-svc" =
    gateway.altSvcFate session found response "alt-svc" := by
  unfold upstreamFate
  cases gateway.altSvcFate session found response "alt-svc" <;>
    cases registryLocation session response <;> split <;> rfl

theorem downstreamFate_altSvc (found : RequestClass) :
    downstreamFate session found response "alt-svc" = none ∨
      downstreamFate session found response "alt-svc" = some [clearValue] ∧
        (found.isGrpc || found.isLongLivedStream) = true := by
  unfold downstreamFate
  dsimp only
  split
  · exact .inl rfl
  split
  · next streaming =>
    refine .inr ⟨rfl, ?_⟩
    rw [Bool.and_eq_true, Bool.or_eq_true, Bool.and_eq_true] at streaming
    rcases streaming.1 with long | grpc
    · rw [long, Bool.or_true]
    · rw [grpc.1, Bool.true_or]
  · split <;> exact .inl rfl

/-- Exactly `clear` is sent: for a reason of the request or the response, or because
HTTP/3 is off and the connection is secure or the upstream says so itself. -/
def Gateway.clearsAltSvc (gateway : Gateway) (session : Session) (response : ResponseHeader) :
    Bool :=
  withdrawsH3 session (earlyRequestFilter session).toRequestClass response ||
    (!gateway.enableH3 &&
      (isDownstreamTls session || response.headers.values "alt-svc" == [asBytes "clear"]))

theorem announcement_ne_clear (port : Nat) : (announcement port).asBytes ≠ clearValue := by
  intro equal
  have same := asBytes_injective equal
  cases congrArg head? same

theorem altSvc_cleared_iff :
    (gateway.fate session (earlyRequestFilter session).toRequestClass [] response
        "alt-svc").getD (response.headers.values "alt-svc") = [asBytes "clear"] ↔
      gateway.clearsAltSvc session response = true := by
  rw [clearsAltSvc]
  generalize (earlyRequestFilter session).toRequestClass = found
  have second := @downstreamFate_altSvc session response
    { found with isLongLivedStream := longLived found [] response }
  rw [fate, HeaderMap.sets, none_or, upstreamFate_altSvc, altSvcFate]
  generalize downstreamFate session _ response "alt-svc" = downstream at second ⊢
  cases withdrawn : withdrawsH3 session found response with
  | true =>
    refine iff_of_true ?_ rfl
    rcases second with rfl | ⟨rfl, -⟩ <;> rfl
  | false =>
    rcases second with rfl | ⟨-, streams⟩
    · cases gateway.enableH3 with
      | true =>
        refine iff_of_false (fun same => ?_) Bool.false_ne_true
        exact announcement_ne_clear gateway.h3Port (singleton_inj.mp same)
      | false =>
        cases isDownstreamTls session with
        | true => exact iff_of_true rfl rfl
        | false => exact beq_iff_eq.symm
    · simp only [withdrawsH3, Bool.or_eq_false_iff] at withdrawn
      simp [longLived, withdrawn] at streams

end

/-! ## Settings and responses -/

/-- A response that an upstream gives to a request on a route of a site, while the
tables in use are those of one configuration, in any iteration order. -/
structure Forwarded (platform : Platform) where
  config : Config
  table : RouteTable
  built : configToRouteTable platform config = .ok table
  exchange : Exchange
  filtering : ∀ index, (exchange.moments index).router.table.Reorders table
  connecting : ∀ moment ∈ exchange.attempts, moment.router.table.Reorders table
  key : Text
  origin : Origin
  listed : (key, origin) ∈ origins platform config
  routed : ∀ moment ∈ exchange.attempts,
    moment.router.table.matchRouteEntry (requestHost exchange.session.req)
      (before '?' exchange.session.req.target) = some origin.route
  reply : Reply
  replied : exchange.reply = some reply

def Carries (headers : HeaderMap) (name value : Text) : Prop :=
  ∃ lower bytes, headerName name = some lower ∧ headerValue value = some bytes ∧
    headers.values lower = [bytes]

namespace Forwarded

variable {platform : Platform} (forwarded : Forwarded platform)

def site : Site :=
  forwarded.origin.site

def effective : HashMap Text Text :=
  effectiveSecurityHeaders forwarded.config forwarded.site

def upstream : HeaderMap :=
  forwarded.reply.header.headers

def sent : HeaderMap :=
  (forwarded.exchange.delivered forwarded.reply).1.headers

/-- What the gateway writes under a name. The routes of sites set no response headers. -/
def fate : Text → Option (List Bytes) :=
  forwarded.exchange.gateway.fate forwarded.exchange.session
    (earlyRequestFilter forwarded.exchange.session).toRequestClass [] forwarded.reply.header

structure LeftOut (lower : Text) (bytes : Bytes) : Prop where
  configured : ∃ name value, forwarded.config.securityHeaders.get? name = some value ∧
    headerName name = some lower ∧ headerValue value = some bytes
  absent : ∀ name value, forwarded.effective.get? name = some value →
    headerName name ≠ some lower

/-- The response carries the effective security headers of its site, those that the
site leaves out only if the upstream sent them, and no announcement of HTTP/3 if the
site has turned it off. -/
@[mk_iff] structure Honoured : Prop where
  carried : ∀ name value, forwarded.effective.get? name = some value →
    Carries forwarded.sent name value
  leftOut : ∀ lower bytes, forwarded.LeftOut lower bytes →
    bytes ∈ forwarded.sent.values lower → bytes ∈ forwarded.upstream.values lower
  altSvc : forwarded.site.http3AltSvcEnabled = false →
    forwarded.sent.values "alt-svc" = [asBytes "clear"]

/-- The response happens to be as the site wants it: the gateway writes an effective
header for a reason of its own, or leaves it alone and the upstream sends it. -/
@[mk_iff] structure Incidental : Prop where
  carried : ∀ name value, forwarded.effective.get? name = some value →
    ∃ lower bytes, headerName name = some lower ∧ headerValue value = some bytes ∧
      (forwarded.fate lower = some [bytes] ∨
        forwarded.fate lower = none ∧ forwarded.upstream.values lower = [bytes])
  leftOut : ∀ lower bytes, forwarded.LeftOut lower bytes →
    ∀ written, forwarded.fate lower = some written → bytes ∈ written →
      bytes ∈ forwarded.upstream.values lower
  altSvc : forwarded.site.http3AltSvcEnabled = false →
    forwarded.exchange.gateway.clearsAltSvc forwarded.exchange.session
      forwarded.reply.header = true

theorem responseHeaders_policies : forwarded.exchange.policies.responseHeaders = [] := by
  unfold Course.policies
  apply foldlRecOn (motive := fun action : MiddlewareAction => action.responseHeaders = [])
  · split
    · exact responseHeaders_requestAction forwarded.built (forwarded.filtering 5)
    · rfl
  · intro action plain moment asked
    unfold MiddlewareAction.refresh
    split
    · exact responseHeaders_requestAction forwarded.built (forwarded.connecting moment asked)
    · exact plain

variable (lower : Text)

theorem values_sent : forwarded.sent.values lower =
      (forwarded.fate lower).getD (forwarded.upstream.values lower) := by
  have given := forwarded.exchange.answered (isSome_of_eq_some forwarded.replied)
  rw [sent, Course.values_delivered given, Course.fate, responseHeaders_policies]
  rfl

theorem values_sent_eq_singleton (bytes : Bytes) :
    forwarded.sent.values lower = [bytes] ↔ forwarded.fate lower = some [bytes] ∨
      forwarded.fate lower = none ∧ forwarded.upstream.values lower = [bytes] := by
  rw [values_sent]
  cases forwarded.fate lower <;> simp

theorem mem_values_sent_iff (bytes : Bytes) :
    (bytes ∈ forwarded.sent.values lower → bytes ∈ forwarded.upstream.values lower) ↔
      ∀ written, forwarded.fate lower = some written → bytes ∈ written →
        bytes ∈ forwarded.upstream.values lower := by
  rw [values_sent]
  cases forwarded.fate lower <;> simp

/-- A response is as the site's settings say exactly when it would be so without
them. -/
theorem settings_honoured_iff : forwarded.Honoured ↔ forwarded.Incidental := by
  have cleared : forwarded.sent.values "alt-svc" = [asBytes "clear"] ↔
      forwarded.exchange.gateway.clearsAltSvc forwarded.exchange.session
        forwarded.reply.header = true := by
    rw [values_sent]
    exact altSvc_cleared_iff
  rw [honoured_iff, incidental_iff]
  refine and_congr ?_ (and_congr ?_ (imp_congr_right fun _ => cleared))
  · simp only [Carries, values_sent_eq_singleton]
  · exact forall₂_congr fun lower bytes =>
      imp_congr_right fun _ => mem_values_sent_iff forwarded lower bytes

end Forwarded

/-! A site that turns the announcement of HTTP/3 off, in a configuration with the
security headers of the default. -/

def quietSite : Site where
  host := "a.example"
  routes := []
  backend := "app"
  http3AltSvcEnabled := false

def quietConfig : Config where
  backends := [{ name := "app", upstreams := [{ addr := "10.0.0.1:80" }] }]
  sites := [quietSite]

def quietTable : RouteTable :=
  match configToRouteTable default quietConfig with
  | .ok table => table
  | .error _ => .empty

def quietExchange : Exchange where
  gateway := { process := default, autoHttps := false, httpsPort := 443, enableH3 := true }
  session :=
    { req := { method := "GET", uri := { pathAndQuery := "/" }
               headers := [("host", asBytes "a.example")] }
      sslDigest := true }
  started := 0
  moments := fun _ => .ofTable quietTable
  attempts := [.ofTable quietTable]
  reply := some { moment := .ofTable quietTable, header := { status := 200 } }
  finished := 0
  asked := fun _ => by decide
  answered := fun _ => by decide

def quietOrigin : Origin where
  site := quietSite
  entry := { path := "/" }
  route :=
    siteRoute "/" .lead none { address := "10.0.0.1:80", port := 80, useTls := false } true {} {}

theorem quiet_reorders : RouteTable.Reorders quietTable quietTable :=
  ⟨Perm.refl _, Perm.refl _⟩

def quietForwarded : Forwarded default where
  config := quietConfig
  table := quietTable
  built := rfl
  exchange := quietExchange
  filtering := fun _ => quiet_reorders
  connecting := by
    intro moment member
    cases List.mem_singleton.mp member
    exact quiet_reorders
  key := "a.example"
  origin := quietOrigin
  listed := @mem_origins_of_selectedOrigin default quietConfig "a.example" "/" quietOrigin rfl
  routed := by
    intro moment member
    cases List.mem_singleton.mp member
    rfl
  reply := { moment := .ofTable quietTable, header := { status := 200 } }
  replied := rfl

/-- HTTP/3 is announced for the site, and none of its security headers is sent. -/
theorem settings_of_quiet_site_ignored : quietForwarded.site.http3AltSvcEnabled = false ∧
      quietForwarded.sent.values "alt-svc" =
        [asBytes ("h3=\":443\"; ma=86400; persist=1, h3-29=\":443\"; ".toList ++
          "ma=86400; persist=1".toList)] ∧
      quietForwarded.effective.get? "X-Frame-Options" = some "SAMEORIGIN".toList ∧
      quietForwarded.sent.values "x-frame-options" = [] ∧ ¬quietForwarded.Honoured := by
  have announced : quietForwarded.sent.values "alt-svc" =
      [asBytes ("h3=\":443\"; ma=86400; persist=1, h3-29=\":443\"; ".toList ++
        "ma=86400; persist=1".toList)] := by
    decide +kernel
  refine ⟨rfl, announced, by decide +kernel, by decide +kernel, ?_⟩
  intro honoured
  have cleared := honoured.altSvc rfl
  revert cleared
  decide

end PertiskProxy.Proxy
