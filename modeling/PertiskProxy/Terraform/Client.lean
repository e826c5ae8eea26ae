import PertiskProxy.ProxyConfig

/-! The provider's client (`terraform/internal/client/client.go`) has types of its own for
what the proxy sends and takes as JSON. -/

namespace PertiskProxy.Terraform

open GeoIp ProxyConfig Security

/-! ## The types of the client

A pointer is an optional value. Numbers come from the proxy and are never
negative. -/

structure Client.Upstream where
  addr : Text
  weight : Option Nat := none

structure Client.Backend where
  name : Text
  upstreams : List Client.Upstream
  algorithm : Text := []
  healthPath : Option Text := none
  healthIntervalSecs : Option Nat := none

structure Client.PathRewrite where
  path : Text
  pathType : Text := []
  rewrite : Option Text := none
  upstream : Option Text := none

structure Client.GeoIP where
  enabled : Bool := false
  allowCountries : List Text := []
  denyCountries : List Text := []
  allowAsns : List Nat := []
  denyAsns : List Nat := []

structure Client.WafRule where
  id : Text
  enabled : Option Bool := none
  action : Text := []
  methods : List Text := []
  pathContains : Text := []
  queryContains : Text := []
  uaContains : Text := []

structure Client.WafConfig where
  enabled : Option Bool := none
  useBuiltinRules : Option Bool := none
  rules : List Client.WafRule := []

structure Client.BotConfig where
  enabled : Option Bool := none
  challengeScore : Option Nat := none
  blockScore : Option Nat := none
  rateLimitPerMin : Option Nat := none

structure Client.CaptchaConfig where
  enabled : Option Bool := none
  cookieTtlSecs : Option Nat := none

structure Client.Security where
  waf : Option Client.WafConfig := none
  bot : Option Client.BotConfig := none
  captcha : Option Client.CaptchaConfig := none

structure Client.Site where
  host : Text
  backend : Text
  routes : List Client.PathRewrite
  forwardClientIp : Option Bool := none
  accessListId : Option Text := none
  wafPolicyId : Option Text := none
  geoip : Option Client.GeoIP := none
  security : Option Client.Security := none
  ingressNamespace : Option Text := none
  ingressName : Option Text := none
  k8sResourceKind : Option Text := none

structure Client.TlsSource where
  kind : Text
  cert : Text := []
  key : Text := []
  email : Option Text := none
  challenge : Text := []
  dnsProvider : Option Text := none
  dnsProviderType : Option Text := none
  dnsCredentials : HashMap Text Text := ∅

structure Client.TlsConfig where
  hosts : List Text
  source : Client.TlsSource
  expiresAt : Option Text := none

structure Client.AccessList where
  id : Text
  name : Text
  description : Option Text := none
  geoip : Client.GeoIP

structure Client.WafPolicy where
  id : Text
  name : Text
  description : Option Text := none
  security : Client.Security

structure Client.ProxyConfig where
  sites : List Client.Site
  backends : List Client.Backend
  tls : List Client.TlsConfig
  accessLists : List Client.AccessList := []
  wafPolicies : List Client.WafPolicy := []
  proxyLog : Option Bool := none
  acmeEmail : Option Text := none

def algorithmName : LoadBalancerAlgorithm → Text
  | .roundRobin => "round-robin"
  | .leastConnections => "least-connections"
  | .ipHash => "ip-hash"

def pathTypeName : PathMatchType → Text
  | .exact => "Exact"
  | .lead => "Prefix"
  | .implementationSpecific => "ImplementationSpecific"

def actionName : WafAction → Text
  | .block => "block"
  | .log => "log"
  | .challenge => "challenge"

inductive SourceKind where
  | acme
  | file
  | kubernetes
deriving DecidableEq

def kindName : SourceKind → Text
  | .acme => "acme"
  | .file => "file"
  | .kubernetes => "kubernetes"

def sendName (name : α → Text) (variants : List α) (text : Text) : Option α :=
  variants.find? fun variant => name variant == text

def sendVariant (name : α → Text) (variants : List α) (default : α) (text : Text) : Option α :=
  if text.isEmpty then some default else sendName name variants text

def sendAlgorithm : Text → Option LoadBalancerAlgorithm :=
  sendVariant algorithmName [.roundRobin, .leastConnections, .ipHash] .roundRobin

def sendPathType : Text → Option PathMatchType :=
  sendVariant pathTypeName [.exact, .lead, .implementationSpecific] .implementationSpecific

def sendAction : Text → Option WafAction :=
  sendVariant actionName [.block, .log, .challenge] .block

def sendKind : Text → Option SourceKind :=
  sendName kindName [.acme, .file, .kubernetes]

@[simp] theorem sendAlgorithm_name (algorithm : LoadBalancerAlgorithm) :
    sendAlgorithm (algorithmName algorithm) = some algorithm := by
  cases algorithm <;> decide

@[simp] theorem sendPathType_name (pathType : PathMatchType) :
    sendPathType (pathTypeName pathType) = some pathType := by
  cases pathType <;> decide

@[simp] theorem sendAction_name (action : WafAction) :
    sendAction (actionName action) = some action := by
  cases action <;> decide

@[simp] theorem sendKind_name (kind : SourceKind) : sendKind (kindName kind) = some kind := by
  cases kind <;> decide

def nonEmpty (text : Text) : Option Text :=
  if text.isEmpty then none else some text

def receiveFlag (flag : Bool) : Option Bool :=
  if flag then some true else none

def receiveUpstream (upstream : Upstream) : Client.Upstream where
  addr := upstream.addr
  weight := some upstream.weight

def receiveBackend (backend : Backend) : Client.Backend where
  name := backend.name
  upstreams := backend.upstreams.map receiveUpstream
  algorithm := algorithmName backend.algorithm
  healthPath := backend.healthPath
  healthIntervalSecs := some backend.healthIntervalSecs

def receiveRoute (route : PathRewrite) : Client.PathRewrite where
  path := route.path
  pathType := pathTypeName route.pathType
  rewrite := route.rewrite
  upstream := route.upstream

def receiveGeoip (policy : GeoIpPolicy) : Client.GeoIP where
  enabled := policy.enabled
  allowCountries := policy.allowCountries
  denyCountries := policy.denyCountries
  allowAsns := policy.allowAsns
  denyAsns := policy.denyAsns

def receiveRule (rule : WafRule) : Client.WafRule where
  id := rule.id
  enabled := some rule.enabled
  action := actionName rule.action
  methods := rule.methods
  pathContains := rule.pathContains.getD []
  queryContains := rule.queryContains.getD []
  uaContains := rule.uaContains.getD []

def receiveWaf (policy : WafPolicy) : Client.WafConfig where
  enabled := receiveFlag policy.enabled
  useBuiltinRules := receiveFlag policy.useBuiltinRules
  rules := policy.rules.map receiveRule

def receiveBot (policy : BotPolicy) : Client.BotConfig where
  enabled := receiveFlag policy.enabled
  challengeScore := some policy.challengeScore
  blockScore := some policy.blockScore
  rateLimitPerMin := some policy.rateLimitPerMin

def receiveCaptcha (policy : CaptchaPolicy) : Client.CaptchaConfig where
  enabled := receiveFlag policy.enabled
  cookieTtlSecs := some policy.cookieTtlSecs

def receiveSecurity (policy : SecurityPolicy) : Client.Security where
  waf := if policy.waf.isDefault then none else some (receiveWaf policy.waf)
  bot := if policy.bot.isDefault then none else some (receiveBot policy.bot)
  captcha := if policy.captcha.isDefault then none else some (receiveCaptcha policy.captcha)

def receiveSite (site : Site) : Client.Site where
  host := site.host
  backend := site.backend
  routes := site.routes.map receiveRoute
  forwardClientIp := if site.forwardClientIp then none else some false
  accessListId := site.accessListId
  wafPolicyId := site.wafPolicyId
  geoip := if site.geoip.isDefault then none else some (receiveGeoip site.geoip)
  security := if site.security.isDefault then none else some (receiveSecurity site.security)
  ingressNamespace := site.ingressNamespace
  ingressName := site.ingressName
  k8sResourceKind := site.k8sResourceKind

def receiveSource : TlsSource → Client.TlsSource
  | .acme source =>
    { kind := kindName .acme
      email := source.email
      challenge := source.challenge
      dnsProvider := source.dnsProvider
      dnsProviderType := source.dnsProviderType
      dnsCredentials := source.dnsCredentials.getD ∅ }
  | .file cert key => { kind := kindName .file, cert, key }
  | .kubernetes => { kind := kindName .kubernetes }

def receiveTls (entry : TlsConfig) : Client.TlsConfig where
  hosts := entry.hosts
  source := receiveSource entry.source
  expiresAt := entry.expiresAt

def receiveAccessList (list : AccessList) : Client.AccessList where
  id := list.id
  name := list.name
  description := list.description
  geoip := receiveGeoip list.geoip

def receiveWafPolicy (policy : NamedWafPolicy) : Client.WafPolicy where
  id := policy.id
  name := policy.name
  description := policy.description
  security := receiveSecurity policy.security

def i64Max : Nat := 9223372036854775807

/-- The numbers of 64 bits are within the signed type of the client. -/
def fitsInt64 (config : Config) : Bool :=
  (config.backends.all fun backend => backend.healthIntervalSecs ≤ i64Max) &&
    (config.sites.all fun site => site.security.captcha.cookieTtlSecs ≤ i64Max) &&
    config.wafPolicies.all fun policy => policy.security.captcha.cookieTtlSecs ≤ i64Max

def receiveConfig (config : Config) : Option Client.ProxyConfig :=
  if fitsInt64 config then
    some
      { sites := config.sites.map receiveSite
        backends := config.backends.map receiveBackend
        tls := config.tls.map receiveTls
        accessLists := config.accessLists.map receiveAccessList
        wafPolicies := config.wafPolicies.map receiveWafPolicy
        proxyLog := some config.proxyLog
        acmeEmail := config.acmeEmail }
  else none

def sendUpstream (upstream : Client.Upstream) : Upstream where
  addr := upstream.addr
  weight := upstream.weight.getD 0

def sendBackend (backend : Client.Backend) : Option Backend := do
  let algorithm ← sendAlgorithm backend.algorithm
  return {
    name := backend.name
    upstreams := backend.upstreams.map sendUpstream
    algorithm
    healthPath := backend.healthPath
    healthIntervalSecs := backend.healthIntervalSecs.getD 0 }

def sendRoute (route : Client.PathRewrite) : Option PathRewrite := do
  let pathType ← sendPathType route.pathType
  return { path := route.path, pathType, rewrite := route.rewrite, upstream := route.upstream }

def sendGeoip (policy : Client.GeoIP) : GeoIpPolicy where
  enabled := policy.enabled
  allowCountries := policy.allowCountries
  denyCountries := policy.denyCountries
  allowAsns := policy.allowAsns
  denyAsns := policy.denyAsns

def sendRule (rule : Client.WafRule) : Option WafRule := do
  let action ← sendAction rule.action
  return {
    id := rule.id
    enabled := rule.enabled.getD true
    action
    methods := rule.methods
    pathContains := nonEmpty rule.pathContains
    queryContains := nonEmpty rule.queryContains
    uaContains := nonEmpty rule.uaContains }

def sendWaf (policy : Client.WafConfig) : Option WafPolicy := do
  let rules ← policy.rules.mapM sendRule
  return {
    enabled := policy.enabled.getD false
    useBuiltinRules := policy.useBuiltinRules.getD false
    rules }

def sendBot (policy : Client.BotConfig) : BotPolicy where
  enabled := policy.enabled.getD false
  challengeScore := policy.challengeScore.getD 40
  blockScore := policy.blockScore.getD 80
  rateLimitPerMin := policy.rateLimitPerMin.getD 120

def sendCaptcha (policy : Client.CaptchaConfig) : CaptchaPolicy where
  enabled := policy.enabled.getD false
  cookieTtlSecs := policy.cookieTtlSecs.getD 86400

def sendSecurity (policy : Client.Security) : Option SecurityPolicy := do
  let waf ← (policy.waf.map sendWaf).getD (some {})
  return {
    waf
    bot := (policy.bot.map sendBot).getD {}
    captcha := (policy.captcha.map sendCaptcha).getD {} }

def sendSite (site : Client.Site) : Option Site := do
  let routes ← site.routes.mapM sendRoute
  let security ← (site.security.map sendSecurity).getD (some {})
  return {
    host := site.host
    routes
    backend := site.backend
    ingressNamespace := site.ingressNamespace
    ingressName := site.ingressName
    k8sResourceKind := site.k8sResourceKind
    forwardClientIp := site.forwardClientIp.getD true
    accessListId := site.accessListId
    wafPolicyId := site.wafPolicyId
    geoip := (site.geoip.map sendGeoip).getD {}
    security }

/-- The tag and the paths of a file entry have no default. -/
def sendSource (source : Client.TlsSource) : Option TlsSource := do
  match ← sendKind source.kind with
  | .acme =>
    return .acme
      { email := source.email
        challenge := (nonEmpty source.challenge).getD "http01"
        dnsProvider := source.dnsProvider
        dnsProviderType := source.dnsProviderType
        dnsCredentials :=
          if source.dnsCredentials.entries.isEmpty then none else some source.dnsCredentials }
  | .file =>
    let cert ← nonEmpty source.cert
    let key ← nonEmpty source.key
    return .file cert key
  | .kubernetes => return .kubernetes

def sendTls (entry : Client.TlsConfig) : Option TlsConfig := do
  let source ← sendSource entry.source
  return { hosts := entry.hosts, source, expiresAt := entry.expiresAt }

def sendAccessList (list : Client.AccessList) : AccessList where
  id := list.id
  name := list.name
  description := list.description
  geoip := sendGeoip list.geoip

def sendWafPolicy (policy : Client.WafPolicy) : Option NamedWafPolicy := do
  let security ← sendSecurity policy.security
  return { id := policy.id, name := policy.name, description := policy.description, security }

def sendConfig (config : Client.ProxyConfig) : Option Config := do
  let sites ← config.sites.mapM sendSite
  let backends ← config.backends.mapM sendBackend
  let tls ← config.tls.mapM sendTls
  let wafPolicies ← config.wafPolicies.mapM sendWafPolicy
  return {
    sites
    backends
    tls
    accessLists := config.accessLists.map sendAccessList
    wafPolicies
    proxyLog := config.proxyLog.getD true
    acmeEmail := config.acmeEmail }

/-! A value that the client received and sends back unchanged arrives without the settings
the client does not name. -/

def keptRoute (route : PathRewrite) : PathRewrite :=
  { route with auth := none, rateLimitRps := 0, x4xxLimitRps := 0, cache := none }

def keptRule (rule : WafRule) : WafRule :=
  { rule with
    pathContains := rule.pathContains.bind nonEmpty
    queryContains := rule.queryContains.bind nonEmpty
    uaContains := rule.uaContains.bind nonEmpty }

def keptSecurity (policy : SecurityPolicy) : SecurityPolicy :=
  { policy with waf := { policy.waf with rules := policy.waf.rules.map keptRule } }

def keptSite (site : Site) : Site :=
  { site with
    routes := site.routes.map keptRoute
    securityHeaders := none
    http3AltSvcEnabled := true
    security := keptSecurity site.security }

def keptSource : TlsSource → TlsSource
  | .acme source =>
    .acme
      { source with
        challenge := (nonEmpty source.challenge).getD "http01"
        dnsCredentials := source.dnsCredentials.filter fun credentials =>
          !credentials.entries.isEmpty }
  | .file cert key => .file cert key
  | .kubernetes => .kubernetes

def keptTls (entry : TlsConfig) : TlsConfig :=
  { entry with source := keptSource entry.source }

def keptPolicy (policy : NamedWafPolicy) : NamedWafPolicy :=
  { policy with security := keptSecurity policy.security }

def namesFiles : TlsSource → Bool
  | .file cert key => !cert.isEmpty && !key.isEmpty
  | .acme _ | .kubernetes => true

theorem nonEmpty_getD (text : Option Text) : nonEmpty (text.getD []) = text.bind nonEmpty := by
  cases text <;> rfl

theorem send_receiveFlag (flag : Bool) : (receiveFlag flag).getD false = flag := by
  cases flag <;> rfl

theorem sendBackend_receive (backend : Backend) :
    sendBackend (receiveBackend backend) = some backend := by
  have upstreams : sendUpstream ∘ receiveUpstream = id := rfl
  simp [sendBackend, receiveBackend, upstreams]

theorem sendRoute_receive (route : PathRewrite) :
    sendRoute (receiveRoute route) = some (keptRoute route) := by
  simp [sendRoute, receiveRoute, keptRoute]

theorem sendRule_receive (rule : WafRule) :
    sendRule (receiveRule rule) = some (keptRule rule) := by
  simp [sendRule, receiveRule, keptRule, nonEmpty_getD]

theorem sendWaf_receive (policy : WafPolicy) :
    sendWaf (receiveWaf policy) = some { policy with rules := policy.rules.map keptRule } := by
  have rules := Fallible.mapM_map_of_forall fun rule (_ : rule ∈ policy.rules) =>
    sendRule_receive rule
  simp [sendWaf, receiveWaf, rules, send_receiveFlag]

theorem sendBot_receive (policy : BotPolicy) : sendBot (receiveBot policy) = policy := by
  simp [sendBot, receiveBot, send_receiveFlag]

theorem sendCaptcha_receive (policy : CaptchaPolicy) :
    sendCaptcha (receiveCaptcha policy) = policy := by
  simp [sendCaptcha, receiveCaptcha, send_receiveFlag]

/-! A policy that has its defaults is left out, and then gets them back. -/

theorem send_leftOut (leftOut : Bool) (value : α) (send : α → β) (fallback : β) :
    (Option.map send (if leftOut then none else some value)).getD fallback =
      if leftOut then fallback else send value := by
  cases leftOut <;> rfl

theorem sendSecurity_receive (policy : SecurityPolicy) :
    sendSecurity (receiveSecurity policy) = some (keptSecurity policy) := by
  have waf : (Option.map sendWaf (receiveSecurity policy).waf).getD (some {}) =
      some { policy.waf with rules := policy.waf.rules.map keptRule } := by
    refine (send_leftOut _ _ _ _).trans ?_
    split
    next default =>
      rw [waf_eq_default default]
      rfl
    next => exact sendWaf_receive policy.waf
  have bot : (Option.map sendBot (receiveSecurity policy).bot).getD {} = policy.bot := by
    refine (send_leftOut _ _ _ _).trans ?_
    split
    next default => exact (bot_eq_default default).symm
    next => exact sendBot_receive policy.bot
  have captcha : (Option.map sendCaptcha (receiveSecurity policy).captcha).getD {} =
      policy.captcha := by
    refine (send_leftOut _ _ _ _).trans ?_
    split
    next default => exact (captcha_eq_default default).symm
    next => exact sendCaptcha_receive policy.captcha
  simp [sendSecurity, waf, bot, captcha, keptSecurity]

theorem sendSite_receive (site : Site) : sendSite (receiveSite site) = some (keptSite site) := by
  have routes := Fallible.mapM_map_of_forall fun route (_ : route ∈ site.routes) =>
    sendRoute_receive route
  have security : (Option.map sendSecurity (receiveSite site).security).getD (some {}) =
      some (keptSecurity site.security) := by
    refine (send_leftOut _ _ _ _).trans ?_
    split
    next default =>
      rw [security_eq_default default]
      rfl
    next => exact sendSecurity_receive site.security
  have geoip : (Option.map sendGeoip (receiveSite site).geoip).getD {} = site.geoip := by
    refine (send_leftOut _ _ _ _).trans ?_
    split
    next default => exact (geoip_eq_default default).symm
    next => rfl
  have forward : (receiveSite site).forwardClientIp.getD true = site.forwardClientIp := by
    rw [receiveSite]
    cases site.forwardClientIp <;> rfl
  rw [sendSite, security, geoip, forward]
  simp [receiveSite, routes, keptSite]

theorem sendSource_receive (source : TlsSource) : sendSource (receiveSource source) =
      if namesFiles source then some (keptSource source) else none := by
  cases source with
  | acme source =>
    rcases source with ⟨email, challenge, provider, type, credentials⟩
    cases credentials with
    | none => simp [sendSource, receiveSource, namesFiles, keptSource]; rfl
    | some credentials =>
      cases empty : credentials.entries.isEmpty <;>
        simp [sendSource, receiveSource, namesFiles, keptSource, Option.filter, empty]
  | file cert key =>
    cases cert <;> cases key <;> simp [sendSource, receiveSource, namesFiles, keptSource, nonEmpty]
  | kubernetes => simp [sendSource, receiveSource, namesFiles, keptSource]

theorem sendWafPolicy_receive (policy : NamedWafPolicy) :
    sendWafPolicy (receiveWafPolicy policy) = some (keptPolicy policy) := by
  simp [sendWafPolicy, receiveWafPolicy, sendSecurity_receive, keptPolicy]

def challengeGiven : TlsSource → Bool
  | .acme source => !source.challenge.isEmpty
  | .file _ _ | .kubernetes => true

def credentialsFilled : TlsSource → Bool
  | .acme source => source.dnsCredentials.all fun credentials => !credentials.entries.isEmpty
  | .file _ _ | .kubernetes => true

def keptCredentials (credentials : Option (HashMap Text Text)) : Option (HashMap Text Text) :=
  credentials.filter fun credentials => !credentials.entries.isEmpty

theorem challengeGiven_keptSource (source : TlsSource) :
    challengeGiven (keptSource source) = true := by
  cases source with
  | acme source =>
    simp only [keptSource, challengeGiven, nonEmpty]
    cases empty : source.challenge.isEmpty with
    | true => rfl
    | false => simp [empty]
  | file cert key => rfl
  | kubernetes => rfl

open TlsConfig

theorem keptTls_of_challengeGiven (given : challengeGiven entry.source = true) :
    keptTls entry = entry.withCredentials keptCredentials := by
  rcases entry with ⟨hosts, source, expiry⟩
  cases source with
  | acme source =>
    rw [challengeGiven, Bool.not_eq_true'] at given
    simp [keptTls, keptSource, withCredentials, keptCredentials, nonEmpty, given]
  | file cert key => rfl
  | kubernetes => rfl

theorem withCredentials_kept_iff {entry : TlsConfig} :
    entry.withCredentials keptCredentials = entry ↔ credentialsFilled entry.source = true := by
  rcases entry with ⟨hosts, source, expiry⟩
  cases source with
  | acme source =>
    rcases source with ⟨email, challenge, provider, type, credentials⟩
    cases credentials with
    | none => simp [withCredentials, keptCredentials, credentialsFilled]
    | some credentials =>
      cases empty : credentials.entries.isEmpty <;>
        simp [withCredentials, keptCredentials, credentialsFilled, Option.filter, empty]
  | file cert key | kubernetes => simp [withCredentials, credentialsFilled]

theorem challengeGiven_of_stands {merged entry : TlsConfig} (stands : merged.Stands entry) :
    challengeGiven merged.source = challengeGiven entry.source := by
  rcases merged with ⟨_, source, _⟩
  rcases entry with ⟨_, source', _⟩
  rcases stands with same | equivalent
  · rw [same]
  · cases source <;> cases source' <;>
      simp_all [acmeSourcesEquivalent, challengeGiven]

/-- Entries that are normalised again after the round trip come out the same
exactly when every challenge is given and no empty credentials are left. -/
theorem normalizeTlsConfig_kept_iff (lasting : ∀ entry ∈ tls, entry.Lasting) :
    normalizeTlsConfig (tls.map keptTls) = normalizeTlsConfig tls ↔
      (∀ entry ∈ tls, challengeGiven entry.source = true) ∧
        ∀ entry ∈ normalizeTlsConfig tls, credentialsFilled entry.source = true := by
  have kept (given : ∀ entry ∈ tls, challengeGiven entry.source = true) :
      normalizeTlsConfig (tls.map keptTls) =
        (normalizeTlsConfig tls).map (withCredentials keptCredentials) := by
    rw [← normalizeTlsConfig_withCredentials,
      List.map_congr_left fun entry member => keptTls_of_challengeGiven (given entry member)]
  constructor
  · intro equal
    have given : ∀ entry ∈ tls, challengeGiven entry.source = true := by
      intro entry member
      rcases exists_stands_normalizeTlsConfig lasting member with ⟨after, among, stands⟩
      rw [← equal] at among
      rcases source_of_mem_normalizeTlsConfig among with ⟨sent, found, same⟩
      rcases List.mem_map.mp found with ⟨origin, _, rfl⟩
      rw [← challengeGiven_of_stands stands, same]
      exact challengeGiven_keptSource origin.source
    refine ⟨given, ?_⟩
    intro entry member
    rw [← withCredentials_kept_iff]
    have unchanged : (normalizeTlsConfig tls).map (withCredentials keptCredentials) =
        (normalizeTlsConfig tls).map id := by
      rw [← kept given, equal, List.map_id]
    exact List.map_inj_left.mp unchanged entry member
  rintro ⟨given, filled⟩
  rw [kept given]
  conv_rhs => rw [← List.map_id (normalizeTlsConfig tls)]
  apply List.map_congr_left
  intro entry member
  exact withCredentials_kept_iff.mpr (filled entry member)

end PertiskProxy.Terraform
