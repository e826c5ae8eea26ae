import PertiskProxy.ProxyConfig

/-! The JSON of a configuration, by the `serde` attributes of its types
(`proxy_config.rs`, `edge/mod.rs`, `geoip.rs`, `http3_options.rs`, `security/`). -/

namespace PertiskProxy.ConfigFormat

open Codec Edge GeoIp Members ProxyConfig Security

def u32 : Codec Nat := unsigned u32Max

def u64 : Codec Nat := unsigned u64Max

/-- `#[serde(default, skip_serializing_if = "Option::is_none")]`. -/
def optional {σ β : Type} (name : Text) (codec : Codec β) (view : σ → Option β) :
    Members σ (Option β) :=
  skipped name (option codec) Option.isNone none view

/-- `#[serde(default)]` on an option, which is written as null. -/
def nullable {σ β : Type} (name : Text) (codec : Codec β) (view : σ → Option β) :
    Members σ (Option β) :=
  defaulted name (option codec) none view

/-- `#[serde(default, skip_serializing_if = "Vec::is_empty")]`. -/
def unlessEmpty {σ β : Type} (name : Text) (codec : Codec β) (view : σ → List β) :
    Members σ (List β) :=
  skipped name (list codec) List.isEmpty [] view

/-- `#[serde(default, skip_serializing_if = "std::ops::Not::not")]`. -/
def unlessFalse {σ : Type} (name : Text) (view : σ → Bool) : Members σ Bool :=
  skipped name bool (fun value => !value) false view

/-- `#[serde(default = "default_true", skip_serializing_if = "is_true")]`. -/
def unlessTrue {σ : Type} (name : Text) (view : σ → Bool) : Members σ Bool :=
  skipped name bool id true view

/-- `#[serde(default, skip_serializing_if = "is_zero_u32")]`. -/
def unlessZero {σ : Type} (name : Text) (view : σ → Nat) : Members σ Nat :=
  skipped name u32 (fun value => value == 0) 0 view

/-! ## Policies -/

def wafActionName : WafAction → Text
  | .block => "block"
  | .log => "log"
  | .challenge => "challenge"

def wafAction : Codec WafAction :=
  enumeration wafActionName [.block, .log, .challenge]

def wafRule : Codec WafRule :=
  record <| always WafRule.mk
    |>.and (required "id" text WafRule.id)
    |>.and (defaulted "enabled" bool true WafRule.enabled)
    |>.and (defaulted "action" wafAction .block WafRule.action)
    |>.and (unlessEmpty "methods" text WafRule.methods)
    |>.and (optional "path_contains" text WafRule.pathContains)
    |>.and (optional "query_contains" text WafRule.queryContains)
    |>.and (optional "ua_contains" text WafRule.uaContains)

def wafPolicy : Codec WafPolicy :=
  record <| always WafPolicy.mk
    |>.and (unlessFalse "enabled" WafPolicy.enabled)
    |>.and (unlessFalse "use_builtin_rules" WafPolicy.useBuiltinRules)
    |>.and (unlessEmpty "rules" wafRule WafPolicy.rules)

def botPolicy : Codec BotPolicy :=
  record <| always BotPolicy.mk
    |>.and (unlessFalse "enabled" BotPolicy.enabled)
    |>.and (defaulted "challenge_score" u32 40 BotPolicy.challengeScore)
    |>.and (defaulted "block_score" u32 80 BotPolicy.blockScore)
    |>.and (defaulted "rate_limit_per_min" u32 120 BotPolicy.rateLimitPerMin)

def captchaPolicy : Codec CaptchaPolicy :=
  record <| always CaptchaPolicy.mk
    |>.and (unlessFalse "enabled" CaptchaPolicy.enabled)
    |>.and (defaulted "cookie_ttl_secs" u64 86400 CaptchaPolicy.cookieTtlSecs)

def securityPolicy : Codec SecurityPolicy :=
  record <| always SecurityPolicy.mk
    |>.and (skipped "waf" wafPolicy WafPolicy.isDefault {} SecurityPolicy.waf)
    |>.and (skipped "bot" botPolicy BotPolicy.isDefault {} SecurityPolicy.bot)
    |>.and (skipped "captcha" captchaPolicy CaptchaPolicy.isDefault {} SecurityPolicy.captcha)

def geoIpPolicy : Codec GeoIpPolicy :=
  record <| always GeoIpPolicy.mk
    |>.and (unlessFalse "enabled" GeoIpPolicy.enabled)
    |>.and (unlessEmpty "allow_countries" text GeoIpPolicy.allowCountries)
    |>.and (unlessEmpty "deny_countries" text GeoIpPolicy.denyCountries)
    |>.and (unlessEmpty "allow_asns" u32 GeoIpPolicy.allowAsns)
    |>.and (unlessEmpty "deny_asns" u32 GeoIpPolicy.denyAsns)

def accessList : Codec AccessList :=
  record <| always AccessList.mk
    |>.and (required "id" text AccessList.id)
    |>.and (required "name" text AccessList.name)
    |>.and (optional "description" text AccessList.description)
    |>.and (skipped "geoip" geoIpPolicy GeoIpPolicy.isDefault {} AccessList.geoip)

def namedWafPolicy : Codec NamedWafPolicy :=
  record <| always NamedWafPolicy.mk
    |>.and (required "id" text NamedWafPolicy.id)
    |>.and (required "name" text NamedWafPolicy.name)
    |>.and (optional "description" text NamedWafPolicy.description)
    |>.and (skipped "security" securityPolicy SecurityPolicy.isDefault {}
      NamedWafPolicy.security)

/-! ## Backends and routes -/

def pathMatchTypeName : PathMatchType → Text
  | .exact => "Exact"
  | .lead => "Prefix"
  | .implementationSpecific => "ImplementationSpecific"

def pathMatchType : Codec PathMatchType :=
  enumeration pathMatchTypeName [.exact, .lead, .implementationSpecific]

def algorithmName : LoadBalancerAlgorithm → Text
  | .roundRobin => "round-robin"
  | .leastConnections => "least-connections"
  | .ipHash => "ip-hash"

def loadBalancerAlgorithm : Codec LoadBalancerAlgorithm :=
  enumeration algorithmName [.roundRobin, .leastConnections, .ipHash]

def upstream : Codec Upstream :=
  record <| always Upstream.mk
    |>.and (required "addr" text Upstream.addr)
    |>.and (defaulted "weight" u32 0 Upstream.weight)

def backend : Codec Backend :=
  record <| always Backend.mk
    |>.and (required "name" text Backend.name)
    |>.and (required "upstreams" (list upstream) Backend.upstreams)
    |>.and (defaulted "algorithm" loadBalancerAlgorithm .roundRobin Backend.algorithm)
    |>.and (nullable "health_path" text Backend.healthPath)
    |>.and (defaulted "health_interval_secs" u64 0 Backend.healthIntervalSecs)

def authKind : RouteAuth → Text
  | .basic _ _ => "basic"
  | .apiKey _ => "api_key"
  | .jwt _ => "jwt"
  | .forward _ => "forward"

def authUsername : RouteAuth → Text
  | .basic username _ => username
  | .apiKey _ | .jwt _ | .forward _ => []

def authSecret : RouteAuth → Text
  | .basic _ password => password
  | .apiKey key => key
  | .jwt secret => secret
  | .forward url => url

def authVariant (kind : Text) : Option (Members RouteAuth RouteAuth) :=
  if kind = "basic".toList then
    some <| always RouteAuth.basic
      |>.and (required "username" text authUsername)
      |>.and (required "password" text authSecret)
  else if kind = "api_key".toList then
    some <| always RouteAuth.apiKey |>.and (required "key" text authSecret)
  else if kind = "jwt".toList then
    some <| always RouteAuth.jwt |>.and (required "secret" text authSecret)
  else if kind = "forward".toList then
    some <| always RouteAuth.forward |>.and (required "url" text authSecret)
  else none

def routeAuth : Codec RouteAuth :=
  tagged "type" authKind authVariant

def pathRewrite : Codec PathRewrite :=
  record <| always PathRewrite.mk
    |>.and (defaulted "path_type" pathMatchType .implementationSpecific PathRewrite.pathType)
    |>.and (required "path" text PathRewrite.path)
    |>.and (nullable "rewrite" text PathRewrite.rewrite)
    |>.and (optional "upstream" text PathRewrite.upstream)
    |>.and (optional "auth" routeAuth PathRewrite.auth)
    |>.and (unlessZero "rate_limit_rps" PathRewrite.rateLimitRps)
    |>.and (unlessZero "x4xx_limit_rps" PathRewrite.x4xxLimitRps)
    |>.and (optional "cache" bool PathRewrite.cache)

def site : Codec Site :=
  record <| always Site.mk
    |>.and (required "host" text Site.host)
    |>.and (required "routes" (list pathRewrite) Site.routes)
    |>.and (required "backend" text Site.backend)
    |>.and (optional "security_headers" (map text) Site.securityHeaders)
    |>.and (optional "ingress_namespace" text Site.ingressNamespace)
    |>.and (optional "ingress_name" text Site.ingressName)
    |>.and (optional "k8s_resource_kind" text Site.k8sResourceKind)
    |>.and (unlessTrue "http3_alt_svc_enabled" Site.http3AltSvcEnabled)
    |>.and (unlessTrue "forward_client_ip" Site.forwardClientIp)
    |>.and (optional "access_list_id" text Site.accessListId)
    |>.and (optional "waf_policy_id" text Site.wafPolicyId)
    |>.and (skipped "geoip" geoIpPolicy GeoIpPolicy.isDefault {} Site.geoip)
    |>.and (skipped "security" securityPolicy SecurityPolicy.isDefault {} Site.security)

/-! ## TLS and the whole configuration -/

def acmeMembers : Members AcmeSource AcmeSource :=
  always AcmeSource.mk
    |>.and (nullable "email" text AcmeSource.email)
    |>.and (defaulted "challenge" text "http01" AcmeSource.challenge)
    |>.and (nullable "dns_provider" text AcmeSource.dnsProvider)
    |>.and (nullable "dns_provider_type" text AcmeSource.dnsProviderType)
    |>.and (nullable "dns_credentials" (map text) AcmeSource.dnsCredentials)

def sourceKind : TlsSource → Text
  | .acme _ => "acme"
  | .file _ _ => "file"
  | .kubernetes => "kubernetes"

def acmePart : TlsSource → AcmeSource
  | .acme source => source
  | .file _ _ | .kubernetes => {}

def filePart : TlsSource → Text × Text
  | .file cert key => (cert, key)
  | .acme _ | .kubernetes => ([], [])

def sourceVariant (kind : Text) : Option (Members TlsSource TlsSource) :=
  if kind = "acme".toList then some (acmeMembers.part acmePart TlsSource.acme)
  else if kind = "file".toList then
    some <| always TlsSource.file
      |>.and (required "cert" text fun source => (filePart source).1)
      |>.and (required "key" text fun source => (filePart source).2)
  else if kind = "kubernetes".toList then some (always TlsSource.kubernetes)
  else none

def tlsSource : Codec TlsSource :=
  tagged "type" sourceKind sourceVariant

def tlsConfig : Codec TlsConfig :=
  record <| always TlsConfig.mk
    |>.and (required "hosts" (list text) TlsConfig.hosts)
    |>.and (required "source" tlsSource TlsConfig.source)
    |>.and (optional "expires_at" text TlsConfig.expiresAt)

def http3Options : Codec Http3Options :=
  record <| always Http3Options.mk
    |>.and (nullable "max_data" u64 Http3Options.maxData)
    |>.and (nullable "max_stream_data" u64 Http3Options.maxStreamData)
    |>.and (nullable "max_streams_bidi" u64 Http3Options.maxStreamsBidi)
    |>.and (nullable "max_idle_timeout_ms" u64 Http3Options.maxIdleTimeoutMs)
    |>.and (nullable "congestion_control" text Http3Options.congestionControl)
    |>.and (nullable "enable_0rtt" bool Http3Options.enable0rtt)
    |>.and (nullable "listeners" u64 Http3Options.listeners)
    |>.and (nullable "enable_pacing" bool Http3Options.enablePacing)

def gradeName : TlsGrade → Text
  | .high => "high"
  | .medium => "medium"
  | .lax => "unsafe"

def tlsGrade : Codec TlsGrade :=
  enumeration gradeName [.high, .medium, .lax]

def consulConfig : Codec ConsulConfig :=
  record <| always ConsulConfig.mk
    |>.and (required "address" text ConsulConfig.address)
    |>.and (optional "token" text ConsulConfig.token)
    |>.and (optional "datacenter" text ConsulConfig.datacenter)

def config : Codec Config :=
  record <| always Config.mk
    |>.and (defaulted "http_addr" text "[::]:80" Config.httpAddr)
    |>.and (defaulted "https_addr" text "[::]:443" Config.httpsAddr)
    |>.and (nullable "http3_addr" text Config.http3Addr)
    |>.and (defaulted "management_addr" text "[::]:9080" Config.managementAddr)
    |>.and (defaulted "backends" (list backend) [] Config.backends)
    |>.and (required "sites" (list site) Config.sites)
    |>.and (unlessEmpty "access_lists" accessList Config.accessLists)
    |>.and (unlessEmpty "waf_policies" namedWafPolicy Config.wafPolicies)
    |>.and (defaulted "tls" (list tlsConfig) [] Config.tls)
    |>.and (defaulted "security_headers" (map text) defaultSecurityHeaders
      Config.securityHeaders)
    |>.and (defaulted "proxy_log" bool true Config.proxyLog)
    |>.and (optional "acme_email" text Config.acmeEmail)
    |>.and (defaulted "http3" http3Options {} Config.http3)
    |>.and (defaulted "tls_grade" tlsGrade .medium Config.tlsGrade)
    |>.and (defaulted "cache_size_mb" u64 0 Config.cacheSizeMb)
    |>.and (defaulted "cache_ttl_secs" u64 60 Config.cacheTtlSecs)
    |>.and (optional "consul" consulConfig Config.consul)
    |>.and (optional "jwt_secret" text Config.jwtSecret)

/-! ## Values of the types -/

structure SecurityFits (policy : SecurityPolicy) : Prop where
  challengeScore : policy.bot.challengeScore ≤ u32Max
  blockScore : policy.bot.blockScore ≤ u32Max
  rateLimit : policy.bot.rateLimitPerMin ≤ u32Max
  cookieTtl : policy.captcha.cookieTtlSecs ≤ u64Max

structure GeoIpFits (policy : GeoIpPolicy) : Prop where
  allowAsns : ∀ asn ∈ policy.allowAsns, asn ≤ u32Max
  denyAsns : ∀ asn ∈ policy.denyAsns, asn ≤ u32Max

structure BackendFits (backend : Backend) : Prop where
  weights : ∀ upstream ∈ backend.upstreams, upstream.weight ≤ u32Max
  interval : backend.healthIntervalSecs ≤ u64Max

structure SiteFits (site : Site) : Prop where
  rateLimits : ∀ route ∈ site.routes, route.rateLimitRps ≤ u32Max
  errorLimits : ∀ route ∈ site.routes, route.x4xxLimitRps ≤ u32Max
  geoip : GeoIpFits site.geoip
  security : SecurityFits site.security

structure Http3Fits (options : Http3Options) : Prop where
  maxData : ∀ value ∈ options.maxData, value ≤ u64Max
  maxStreamData : ∀ value ∈ options.maxStreamData, value ≤ u64Max
  maxStreamsBidi : ∀ value ∈ options.maxStreamsBidi, value ≤ u64Max
  maxIdleTimeout : ∀ value ∈ options.maxIdleTimeoutMs, value ≤ u64Max
  listeners : ∀ value ∈ options.listeners, value ≤ u64Max

structure ConfigFits (config : Config) : Prop where
  backends : ∀ backend ∈ config.backends, BackendFits backend
  sites : ∀ site ∈ config.sites, SiteFits site
  accessLists : ∀ list ∈ config.accessLists, GeoIpFits list.geoip
  wafPolicies : ∀ policy ∈ config.wafPolicies, SecurityFits policy.security
  http3 : Http3Fits config.http3
  cacheSize : config.cacheSizeMb ≤ u64Max
  cacheTtl : config.cacheTtlSecs ≤ u64Max

/-! ## Members with an attribute -/

section

variable {σ β : Type} {name : Text} {codec : Codec β} {value : σ}

theorem recovers_optional (never : codec.NeverNull)
    (restores : ∀ found ∈ view value, codec.Restores found) :
    (optional name codec view).Recovers value :=
  recovers_skipped (restores_option never restores) Option.isNone_iff_eq_none.mp

theorem recovers_nullable (never : codec.NeverNull)
    (restores : ∀ found ∈ view value, codec.Restores found) :
    (nullable name codec view).Recovers value :=
  recovers_defaulted (restores_option never restores)

theorem recovers_text : (required name text view).Recovers value :=
  recovers_required (restores_text _)

theorem recovers_optionalText : (optional name text view).Recovers value :=
  recovers_optional neverNull_text fun _ _ => restores_text _

theorem recovers_nullableText : (nullable name text view).Recovers value :=
  recovers_nullable neverNull_text fun _ _ => restores_text _

theorem recovers_unlessEmpty (restores : ∀ found ∈ view value, codec.Restores found) :
    (unlessEmpty name codec view).Recovers value :=
  recovers_skipped (restores_list restores) List.isEmpty_iff.mp

theorem recovers_unlessFalse : (unlessFalse name view).Recovers value :=
  recovers_skipped (restores_bool _) fun skipping => by simpa using skipping

theorem recovers_unlessTrue : (unlessTrue name view).Recovers value :=
  recovers_skipped (restores_bool _) fun skipping => skipping

theorem recovers_unlessZero (fits : view value ≤ u32Max) :
    (unlessZero name view).Recovers value :=
  recovers_skipped (restores_unsigned fits) fun skipping => by simpa using skipping

end

/-! ## Values restored -/

theorem restores_wafAction (action : WafAction) : wafAction.Restores action := by
  cases action <;> rfl

theorem restores_wafRule (rule : WafRule) : wafRule.Restores rule :=
  restores_record (by decide) rfl <|
    recovers_always rule _
      |>.and recovers_text
      |>.and (recovers_defaulted (restores_bool _))
      |>.and (recovers_defaulted (restores_wafAction _))
      |>.and (recovers_unlessEmpty fun _ _ => restores_text _)
      |>.and recovers_optionalText
      |>.and recovers_optionalText
      |>.and recovers_optionalText

theorem restores_wafPolicy (policy : WafPolicy) : wafPolicy.Restores policy :=
  restores_record (by decide) rfl <|
    recovers_always policy _
      |>.and recovers_unlessFalse
      |>.and recovers_unlessFalse
      |>.and (recovers_unlessEmpty fun _ _ => restores_wafRule _)

theorem restores_securityPolicy (fits : SecurityFits policy) :
    securityPolicy.Restores policy := by
  have bot : botPolicy.Restores policy.bot :=
    restores_record (by decide) rfl <|
      recovers_always policy.bot _
        |>.and recovers_unlessFalse
        |>.and (recovers_defaulted (restores_unsigned fits.challengeScore))
        |>.and (recovers_defaulted (restores_unsigned fits.blockScore))
        |>.and (recovers_defaulted (restores_unsigned fits.rateLimit))
  have captcha : captchaPolicy.Restores policy.captcha :=
    restores_record (by decide) rfl <|
      recovers_always policy.captcha _
        |>.and recovers_unlessFalse
        |>.and (recovers_defaulted (restores_unsigned fits.cookieTtl))
  exact restores_record (by decide) rfl <|
    recovers_always policy _
      |>.and (recovers_skipped (restores_wafPolicy _) waf_eq_default)
      |>.and (recovers_skipped bot bot_eq_default)
      |>.and (recovers_skipped captcha captcha_eq_default)

theorem restores_geoIpPolicy (fits : GeoIpFits policy) : geoIpPolicy.Restores policy :=
  restores_record (by decide) rfl <|
    recovers_always policy _
      |>.and recovers_unlessFalse
      |>.and (recovers_unlessEmpty fun _ _ => restores_text _)
      |>.and (recovers_unlessEmpty fun _ _ => restores_text _)
      |>.and (recovers_unlessEmpty fun asn member => restores_unsigned (fits.allowAsns asn member))
      |>.and (recovers_unlessEmpty fun asn member => restores_unsigned (fits.denyAsns asn member))

theorem restores_accessList (fits : GeoIpFits entry.geoip) : accessList.Restores entry :=
  restores_record (by decide) rfl <|
    recovers_always entry _
      |>.and recovers_text
      |>.and recovers_text
      |>.and recovers_optionalText
      |>.and (recovers_skipped (restores_geoIpPolicy fits) geoip_eq_default)

theorem restores_namedWafPolicy (fits : SecurityFits policy.security) :
    namedWafPolicy.Restores policy :=
  restores_record (by decide) rfl <|
    recovers_always policy _
      |>.and recovers_text
      |>.and recovers_text
      |>.and recovers_optionalText
      |>.and (recovers_skipped (restores_securityPolicy fits) security_eq_default)

theorem restores_pathMatchType (pathType : PathMatchType) : pathMatchType.Restores pathType := by
  cases pathType <;> rfl

theorem restores_algorithm (algorithm : LoadBalancerAlgorithm) :
    loadBalancerAlgorithm.Restores algorithm := by
  cases algorithm <;> rfl

theorem restores_backend (fits : BackendFits entry) : backend.Restores entry := by
  have upstreams : ∀ server ∈ entry.upstreams, upstream.Restores server := by
    intro server member
    exact restores_record (by decide) rfl <|
      recovers_always server _
        |>.and recovers_text
        |>.and (recovers_defaulted (restores_unsigned (fits.weights server member)))
  exact restores_record (by decide) rfl <|
    recovers_always entry _
      |>.and recovers_text
      |>.and (recovers_required (restores_list upstreams))
      |>.and (recovers_defaulted (restores_algorithm _))
      |>.and recovers_nullableText
      |>.and (recovers_defaulted (restores_unsigned fits.interval))

theorem restores_routeAuth (auth : RouteAuth) : routeAuth.Restores auth := by
  cases auth with
  | basic username password =>
    exact restores_tagged rfl (by decide) rfl <|
      recovers_always _ _
        |>.and recovers_text
        |>.and recovers_text
  | apiKey key | jwt secret | forward url =>
    exact restores_tagged rfl (by decide) rfl <|
      recovers_always _ _ |>.and recovers_text

theorem restores_pathRewrite (rateLimit : route.rateLimitRps ≤ u32Max)
    (errorLimit : route.x4xxLimitRps ≤ u32Max) : pathRewrite.Restores route :=
  restores_record (by decide) rfl <|
    recovers_always route _
      |>.and (recovers_defaulted (restores_pathMatchType _))
      |>.and recovers_text
      |>.and recovers_nullableText
      |>.and recovers_optionalText
      |>.and (recovers_optional (neverNull_tagged _ _ _) fun _ _ => restores_routeAuth _)
      |>.and (recovers_unlessZero rateLimit)
      |>.and (recovers_unlessZero errorLimit)
      |>.and (recovers_optional neverNull_bool fun _ _ => restores_bool _)

theorem restores_headers (headers : HashMap Text Text) : (map text).Restores headers :=
  restores_map fun _ _ => restores_text _

theorem restores_site (fits : SiteFits entry) : site.Restores entry := by
  have routes : ∀ route ∈ entry.routes, pathRewrite.Restores route := fun route member =>
    restores_pathRewrite (fits.rateLimits route member) (fits.errorLimits route member)
  exact restores_record (by decide) rfl <|
    recovers_always entry _
      |>.and recovers_text
      |>.and (recovers_required (restores_list routes))
      |>.and recovers_text
      |>.and (recovers_optional (neverNull_map _) fun _ _ => restores_headers _)
      |>.and recovers_optionalText
      |>.and recovers_optionalText
      |>.and recovers_optionalText
      |>.and recovers_unlessTrue
      |>.and recovers_unlessTrue
      |>.and recovers_optionalText
      |>.and recovers_optionalText
      |>.and (recovers_skipped (restores_geoIpPolicy fits.geoip) geoip_eq_default)
      |>.and (recovers_skipped (restores_securityPolicy fits.security) security_eq_default)

theorem restores_tlsSource (source : TlsSource) : tlsSource.Restores source := by
  cases source with
  | acme settings =>
    refine restores_tagged rfl (by decide) rfl (Recovers.part ?_)
    exact recovers_always _ _
      |>.and recovers_nullableText
      |>.and (recovers_defaulted (restores_text _))
      |>.and recovers_nullableText
      |>.and recovers_nullableText
      |>.and (recovers_nullable (neverNull_map _) fun _ _ => restores_headers _)
  | file cert key =>
    exact restores_tagged rfl (by decide) rfl <|
      recovers_always _ _ |>.and recovers_text |>.and recovers_text
  | kubernetes => exact restores_tagged rfl (by decide) rfl (recovers_always _ _)

theorem restores_tlsConfig (entry : TlsConfig) : tlsConfig.Restores entry :=
  restores_record (by decide) rfl <|
    recovers_always entry _
      |>.and (recovers_required (restores_list fun _ _ => restores_text _))
      |>.and (recovers_required (restores_tlsSource _))
      |>.and recovers_optionalText

theorem restores_http3Options (fits : Http3Fits options) : http3Options.Restores options := by
  have number : ∀ {name : Text} {view : Http3Options → Option Nat},
      (∀ value ∈ view options, value ≤ u64Max) → (nullable name u64 view).Recovers options := by
    intro name view within
    exact recovers_nullable (neverNull_unsigned _) fun value present =>
      restores_unsigned (within value present)
  exact restores_record (by decide) rfl <|
    recovers_always options _
      |>.and (number fits.maxData)
      |>.and (number fits.maxStreamData)
      |>.and (number fits.maxStreamsBidi)
      |>.and (number fits.maxIdleTimeout)
      |>.and recovers_nullableText
      |>.and (recovers_nullable neverNull_bool fun _ _ => restores_bool _)
      |>.and (number fits.listeners)
      |>.and (recovers_nullable neverNull_bool fun _ _ => restores_bool _)

theorem restores_tlsGrade (grade : TlsGrade) : tlsGrade.Restores grade := by
  cases grade <;> rfl

theorem restores_consulConfig (consul : ConsulConfig) : consulConfig.Restores consul :=
  restores_record (by decide) rfl <|
    recovers_always consul _
      |>.and recovers_text
      |>.and recovers_optionalText
      |>.and recovers_optionalText

/-- A stored configuration is read back as it was. -/
theorem config_read_back {stored : Config} (fits : ConfigFits stored) :
    config.decode (config.encode stored) = some stored :=
  restores_record (by decide) rfl <|
    recovers_always stored _
      |>.and (recovers_defaulted (restores_text _))
      |>.and (recovers_defaulted (restores_text _))
      |>.and recovers_nullableText
      |>.and (recovers_defaulted (restores_text _))
      |>.and (recovers_defaulted (restores_list fun entry member =>
        restores_backend (fits.backends entry member)))
      |>.and (recovers_required (restores_list fun entry member =>
        restores_site (fits.sites entry member)))
      |>.and (recovers_unlessEmpty fun entry member =>
        restores_accessList (fits.accessLists entry member))
      |>.and (recovers_unlessEmpty fun policy member =>
        restores_namedWafPolicy (fits.wafPolicies policy member))
      |>.and (recovers_defaulted (restores_list fun _ _ => restores_tlsConfig _))
      |>.and (recovers_defaulted (restores_headers _))
      |>.and (recovers_defaulted (restores_bool _))
      |>.and recovers_optionalText
      |>.and (recovers_defaulted (restores_http3Options fits.http3))
      |>.and (recovers_defaulted (restores_tlsGrade _))
      |>.and (recovers_defaulted (restores_unsigned fits.cacheSize))
      |>.and (recovers_defaulted (restores_unsigned fits.cacheTtl))
      |>.and (recovers_optional (neverNull_record _) fun _ _ => restores_consulConfig _)
      |>.and recovers_optionalText

def sampleSite : Site where
  host := "app.test"
  routes := [{ path := "/", auth := some (.basic "user" "secret"), rateLimitRps := 5 }]
  backend := "app"
  securityHeaders := some ∅
  http3AltSvcEnabled := false
  geoip := { denyAsns := [64512] }
  security := { captcha := { cookieTtlSecs := 60 } }

def sample : Config where
  backends := [{ name := "app", upstreams := [{ addr := "10.0.0.1:80", weight := 1 }] }]
  sites := [sampleSite]
  tls := [{ hosts := ["app.test"], source := .acme { email := some "ops@app.test" } }]
  http3 := { listeners := some 4 }

theorem sample_read_back :
    ConfigFits sample ∧ config.decode (config.encode sample) = some sample := by
  have siteFits : SiteFits sampleSite :=
    { rateLimits := by decide
      errorLimits := by decide
      geoip := ⟨by decide, by decide⟩
      security := ⟨by decide, by decide, by decide, by decide⟩ }
  have fits : ConfigFits sample :=
    { backends := List.forall_mem_singleton.mpr ⟨by decide, by decide⟩
      sites := List.forall_mem_singleton.mpr siteFits
      accessLists := List.forall_mem_nil _
      wafPolicies := List.forall_mem_nil _
      http3 := ⟨by decide, by decide, by decide, by decide, by decide⟩
      cacheSize := by decide
      cacheTtl := by decide }
  exact ⟨fits, config_read_back fits⟩

end PertiskProxy.ConfigFormat
