import PertiskProxy.Api.Acme
import PertiskProxy.Api.Atomicity
import PertiskProxy.Terraform.Client

/-! Applying or deleting a site of the Terraform provider
(`terraform/internal/provider/resource_site.go`) reads the whole configuration, changes
one site, and writes the whole configuration back. -/

namespace PertiskProxy.Terraform

open Api Procedure ProxyConfig Security List

structure RoutePlan where
  path : Text
  pathType : Text := "Prefix"
  rewrite : Option Text := none
  upstream : Option Text := none

structure SitePlan where
  host : Text
  backend : Text
  backendUpstream : Option Text := none
  routes : List RoutePlan := []
  forwardClientIp : Option Bool := some true
  accessListId : Option Text := none
  wafPolicyId : Option Text := none

def SitePlan.site (plan : SitePlan) : Client.Site where
  host := plan.host
  backend := plan.backend
  routes := plan.routes.map fun route =>
    { path := route.path
      pathType := route.pathType
      rewrite := route.rewrite.bind nonEmpty
      upstream := route.upstream.bind nonEmpty }
  forwardClientIp := plan.forwardClientIp
  accessListId := plan.accessListId.bind nonEmpty
  wafPolicyId := plan.wafPolicyId.bind nonEmpty

/-! ## Editing the configuration -/

def setFirst (isMatch : α → Bool) (update : α → α) (fresh : α) : List α → List α
  | [] => [fresh]
  | value :: rest =>
    if isMatch value then update value :: rest
    else value :: setFirst isMatch update fresh rest

def ensureBackend (config : Client.ProxyConfig) (name addr : Text) : Client.ProxyConfig :=
  { config with
    backends := setFirst (fun backend => backend.name == name)
      (fun backend => { backend with upstreams := [{ addr }] }) { name, upstreams := [{ addr }] }
      config.backends }

def upsertSite (config : Client.ProxyConfig) (site : Client.Site) (backendUpstream : Text) :
    Client.ProxyConfig :=
  let config :=
    if backendUpstream.isEmpty then config
    else ensureBackend config site.backend backendUpstream
  { config with
    sites := setFirst (fun other => other.host == site.host) (fun _ => site) site config.sites }

def removeSite (config : Client.ProxyConfig) (host : Text) : Option Client.ProxyConfig :=
  if config.sites.any fun site => site.host == host then
    some { config with sites := config.sites.eraseP fun site => site.host == host }
  else none

theorem filter_setFirst (updated : ∀ value, isMatch value = true → isMatch (update value) = true)
    (added : isMatch fresh = true) :
    (setFirst isMatch update fresh values).filter (fun value => !isMatch value) =
      values.filter fun value => !isMatch value := by
  induction values with
  | nil => simp [setFirst, added]
  | cons value rest induction =>
    rw [setFirst]
    by_cases found : isMatch value = true
    · simp [found, updated value found]
    · simp [found, induction]

theorem filter_eraseP {isMatch : α → Bool} {values : List α} :
    (values.eraseP isMatch).filter (fun value => !isMatch value) =
      values.filter fun value => !isMatch value := by
  induction values with
  | nil => rfl
  | cons value rest induction =>
    by_cases found : isMatch value = true
    · simp [found]
    · simp [found, induction]

/-! ## The operations -/

inductive ClientError where
  | invalid (text : Text)
  | decode
  | answered (status : Nat) (error : Option Text)
deriving DecidableEq

inductive SiteChange where
  | apply (plan : SitePlan)
  | delete (plan : SitePlan)

namespace SiteChange

def plan : SiteChange → SitePlan
  | .apply plan => plan
  | .delete plan => plan

def validate : SiteChange → Except ClientError Unit
  | .apply plan =>
    if plan.routes.isEmpty then .error (.invalid "at least one routes block is required")
    else .ok ()
  | .delete _ => .ok ()

/-- Nothing is sent when there is no site to delete. -/
def edit : SiteChange → Client.ProxyConfig → Option Client.ProxyConfig
  | .apply plan, config => some (upsertSite config plan.site (plan.backendUpstream.getD []))
  | .delete plan, config => removeSite config plan.host

end SiteChange

section

variable (acme : Acme)

def getConfig : Action ClientError Client.ProxyConfig := do
  let config ← always (buildConfig acme)
  check ((receiveConfig config).elim (.error .decode) .ok)

/-- The body is decoded before anything else. -/
def putConfig (config : Client.ProxyConfig) : Action ClientError PUnit := do
  let body ← check ((sendConfig config).elim (.error (.answered 422 none)) .ok)
  adapt (fun error => .answered error.status error.error)
    (Api.putConfig acme.admin body)

def SiteChange.run (change : SiteChange) : Action ClientError PUnit := do
  check change.validate
  let config ← getConfig acme
  match change.edit config with
  | some config => putConfig acme config
  | none => pure ⟨⟩

end

/-! ## What is sent -/

def SiteChange.request (change : SiteChange) (config : Config) : Option Config :=
  if change.validate.isOk then ((receiveConfig config).bind change.edit).bind sendConfig else none

theorem edit_eq_some {change : SiteChange} {config edited : Client.ProxyConfig}
    (edits : change.edit config = some edited) :
    (edited.sites.filter fun site => !(site.host == change.plan.host)) =
        (config.sites.filter fun site => !(site.host == change.plan.host)) ∧
      (edited.backends.filter fun backend => !(backend.name == change.plan.backend)) =
        (config.backends.filter fun backend => !(backend.name == change.plan.backend)) ∧
      edited = { config with sites := edited.sites, backends := edited.backends } := by
  cases change with
  | apply plan =>
    cases edits
    refine ⟨?_, ?_, ?_⟩
    · have others : ∀ sites : List Client.Site,
          ((setFirst (fun other => other.host == plan.site.host) (fun _ => plan.site) plan.site
            sites).filter fun site => !(site.host == plan.host)) =
            sites.filter fun site => !(site.host == plan.host) := fun sites =>
        filter_setFirst (fun _ _ => beq_self_eq_true plan.host) (beq_self_eq_true plan.host)
      refine (others _).trans ?_
      split <;> rfl
    · simp only [upsertSite]
      split
      · rfl
      · exact filter_setFirst (fun _ same => same) (beq_self_eq_true plan.backend)
    · simp only [upsertSite]
      split <;> rfl
  | delete plan =>
    rw [SiteChange.edit, removeSite] at edits
    split at edits
    · cases edits
      exact ⟨filter_eraseP, rfl, rfl⟩
    · cases edits

theorem sendSite_host (sends : sendSite site = some sent) : sent.host = site.host := by
  rw [sendSite] at sends
  rcases Option.bind_eq_some_iff.mp sends with ⟨routes, _, rest⟩
  rcases Option.bind_eq_some_iff.mp rest with ⟨security, _, made⟩
  cases made
  rfl

theorem sendBackend_name (sends : sendBackend backend = some sent) :
    sent.name = backend.name := by
  rw [sendBackend] at sends
  rcases Option.bind_eq_some_iff.mp sends with ⟨algorithm, _, made⟩
  cases made
  rfl

structure Arrives (change : SiteChange) (config body : Config) : Prop where
  sites : (body.sites.filter fun site => !(site.host == change.plan.host)) =
    (config.sites.filter fun site => !(site.host == change.plan.host)).map keptSite
  backends : (body.backends.filter fun backend => !(backend.name == change.plan.backend)) =
    config.backends.filter fun backend => !(backend.name == change.plan.backend)
  others : body =
    { sites := body.sites
      backends := body.backends
      tls := config.tls.map keptTls
      accessLists := config.accessLists
      wafPolicies := config.wafPolicies.map keptPolicy
      proxyLog := config.proxyLog
      acmeEmail := config.acmeEmail }

theorem sendConfig_eq_some (sends : sendConfig config = some body) :
    config.sites.mapM sendSite = some body.sites ∧
      config.backends.mapM sendBackend = some body.backends ∧
      config.tls.mapM sendTls = some body.tls ∧
      config.wafPolicies.mapM sendWafPolicy = some body.wafPolicies ∧ body =
        { sites := body.sites
          backends := body.backends
          tls := body.tls
          accessLists := config.accessLists.map sendAccessList
          wafPolicies := body.wafPolicies
          proxyLog := config.proxyLog.getD true
          acmeEmail := config.acmeEmail } := by
  rw [sendConfig] at sends
  rcases Option.bind_eq_some_iff.mp sends with ⟨sites, sitesSent, rest⟩
  rcases Option.bind_eq_some_iff.mp rest with ⟨backends, backendsSent, rest⟩
  rcases Option.bind_eq_some_iff.mp rest with ⟨tls, tlsSent, rest⟩
  rcases Option.bind_eq_some_iff.mp rest with ⟨policies, policiesSent, made⟩
  cases made
  exact ⟨sitesSent, backendsSent, tlsSent, policiesSent, rfl⟩

theorem sendTls_receive (sends : sendTls (receiveTls entry) = some sent) :
    sent = keptTls entry := by
  rw [sendTls] at sends
  rcases Option.bind_eq_some_iff.mp sends with ⟨source, sourceSent, made⟩
  rw [receiveTls, sendSource_receive] at sourceSent
  split at sourceSent
  · cases sourceSent
    cases made
    rfl
  · cases sourceSent

theorem arrives_of_request {change : SiteChange} {config body : Config}
    (requested : change.request config = some body) : Arrives change config body := by
  rw [SiteChange.request] at requested
  split at requested
  next =>
    rcases Option.bind_eq_some_iff.mp requested with ⟨edited, edits, sends⟩
    rcases Option.bind_eq_some_iff.mp edits with ⟨received, receives, edits⟩
    rw [receiveConfig] at receives
    split at receives
    next =>
      cases receives
      rcases edit_eq_some edits with ⟨sites, backends, others⟩
      rcases sendConfig_eq_some sends with
        ⟨sitesSent, backendsSent, tlsSent, policiesSent, sentOthers⟩
      have otherSites := Fallible.mapM_filter sitesSent fun site sent made =>
        show (!(site.host == change.plan.host)) = !(sent.host == change.plan.host) by
          rw [sendSite_host made]
      have otherBackends := Fallible.mapM_filter backendsSent fun backend sent made =>
        show (!(backend.name == change.plan.backend)) = !(sent.name == change.plan.backend) by
          rw [sendBackend_name made]
      rw [sites, filter_map] at otherSites
      rw [backends, filter_map] at otherBackends
      rw [others] at tlsSent policiesSent sentOthers
      refine ⟨?_, ?_, ?_⟩
      · exact Fallible.eq_map_of_mapM otherSites fun site sent made =>
          (Option.some.inj ((sendSite_receive site).symm.trans made)).symm
      · have same := Fallible.eq_map_of_mapM otherBackends fun backend sent made =>
          (Option.some.inj ((sendBackend_receive backend).symm.trans made)).symm
        rw [same]
        exact map_id _
      have tls := Fallible.eq_map_of_mapM tlsSent fun _ _ made => sendTls_receive made
      have policies := Fallible.eq_map_of_mapM policiesSent fun policy sent made =>
        (Option.some.inj ((sendWafPolicy_receive policy).symm.trans made)).symm
      have lists : (config.accessLists.map receiveAccessList).map sendAccessList =
          config.accessLists := by
        rw [map_map]
        exact map_id _
      rw [sentOthers]
      simp [tls, policies, lists]
    next => cases receives
  next => cases requested

/-! ## What a change preserves -/

def PlainRoute (route : PathRewrite) : Prop :=
  route.auth = none ∧ route.rateLimitRps = 0 ∧ route.x4xxLimitRps = 0 ∧ route.cache = none

def PlainSecurity (policy : SecurityPolicy) : Prop :=
  ∀ rule ∈ policy.waf.rules,
    rule.pathContains ≠ some [] ∧ rule.queryContains ≠ some [] ∧ rule.uaContains ≠ some []

def PlainSite (site : Site) : Prop :=
  (∀ route ∈ site.routes, PlainRoute route) ∧ site.securityHeaders = none ∧
    site.http3AltSvcEnabled = true ∧ PlainSecurity site.security

theorem bind_nonEmpty_iff : text.bind nonEmpty = text ↔ text ≠ some [] := by
  rcases text with _ | _ | _ <;> simp [nonEmpty]

theorem keptRoute_eq_iff : keptRoute route = route ↔ PlainRoute route := by
  rcases route with ⟨pathType, path, rewrite, upstream, auth, rate, x4xx, cache⟩
  simp [keptRoute, PlainRoute, eq_comm]

theorem keptSecurity_eq_iff {policy : SecurityPolicy} :
    keptSecurity policy = policy ↔ PlainSecurity policy := by
  have rule : ∀ rule : WafRule, keptRule rule = rule ↔
      rule.pathContains ≠ some [] ∧ rule.queryContains ≠ some [] ∧ rule.uaContains ≠ some [] := by
    rintro ⟨id, enabled, action, methods, pathContains, queryContains, uaContains⟩
    simp [keptRule, bind_nonEmpty_iff]
  rcases policy with ⟨⟨enabled, builtin, rules⟩, bot, captcha⟩
  simp [keptSecurity, PlainSecurity, Fallible.map_eq_self_iff, rule]

theorem keptSite_eq_iff {site : Site} : keptSite site = site ↔ PlainSite site := by
  rcases site with ⟨host, routes, backend, headers, ns, name, kind, altSvc, forward, list, waf,
    geoip, security⟩
  simp [keptSite, PlainSite, Site.mk.injEq, Fallible.map_eq_self_iff, keptRoute_eq_iff,
    keptSecurity_eq_iff, @eq_comm _ none headers, @eq_comm _ true altSvc]

theorem keptPolicy_eq_iff : keptPolicy policy = policy ↔ PlainSecurity policy.security := by
  rcases policy with ⟨id, name, description, security⟩
  simp [keptPolicy, keptSecurity_eq_iff]

/-- The settings of which the client has no field at all. -/
def unnamed (config : Config) : Config :=
  { config with
    sites := [], backends := [], tls := [], accessLists := [], wafPolicies := []
    proxyLog := true, acmeEmail := none }

/-- The settings the client cannot carry have their defaults. The sites of the
host that is changed do not count. -/
structure Lossless (host : Text) (config : Config) : Prop where
  sites : ∀ site ∈ config.sites, site.host ≠ host → PlainSite site
  policies : ∀ policy ∈ config.wafPolicies, PlainSecurity policy.security
  challenges : ∀ entry ∈ config.tls, challengeGiven entry.source = true
  credentials : ∀ entry ∈ config.withNormalizedTls.tls, credentialsFilled entry.source = true
  unnamed : unnamed config = {}

/-- The other sites, the other backends, and all other settings are those of the
configuration, with the TLS entries as saving normalises them. -/
structure Preserves (change : SiteChange) (config after : Config) : Prop where
  sites : (after.sites.filter fun site => !(site.host == change.plan.host)) =
    config.sites.filter fun site => !(site.host == change.plan.host)
  backends : (after.backends.filter fun backend => !(backend.name == change.plan.backend)) =
    config.backends.filter fun backend => !(backend.name == change.plan.backend)
  others : { after with sites := [], backends := [] } =
    { config.withNormalizedTls with sites := [], backends := [] }

theorem sites_eq_iff {host : Text} {sites : List Site} :
    (sites.filter fun site => !(site.host == host)).map keptSite =
        (sites.filter fun site => !(site.host == host)) ↔
      ∀ site ∈ sites, site.host ≠ host → PlainSite site := by
  simp [Fallible.map_eq_self_iff, keptSite_eq_iff, beq_eq_false_iff_ne, and_imp]

def undated (entry : TlsConfig) : TlsConfig :=
  { entry with expiresAt := none }

theorem withNormalizedTls_tls_iff {config : Config} (lasting : ∀ entry ∈ config.tls, entry.Lasting) :
    normalizeTlsConfig ((config.tls.map keptTls).map undated) = config.withNormalizedTls.tls ↔
      (∀ entry ∈ config.tls, challengeGiven entry.source = true) ∧
        ∀ entry ∈ config.withNormalizedTls.tls, credentialsFilled entry.source = true := by
  have swap : (config.tls.map keptTls).map undated = (config.tls.map undated).map keptTls := by
    rw [map_map, map_map]
    rfl
  have undatedLasting : ∀ entry ∈ config.tls.map undated, entry.Lasting := by
    intro entry member
    rcases mem_map.mp member with ⟨origin, among, rfl⟩
    exact lasting origin among
  rw [swap, Config.withNormalizedTls]
  refine (normalizeTlsConfig_kept_iff undatedLasting).trans ?_
  apply and_congr_left'
  simp only [mem_map, forall_exists_index, and_imp, forall_apply_eq_imp_iff₂]
  rfl

theorem others_eq_iff {config body : Config} (others : body =
      { sites := body.sites
        backends := body.backends
        tls := config.tls.map keptTls
        accessLists := config.accessLists
        wafPolicies := config.wafPolicies.map keptPolicy
        proxyLog := config.proxyLog
        acmeEmail := config.acmeEmail }) :
    ({ body.withNormalizedTls with sites := [], backends := [] } : Config) =
        { config.withNormalizedTls with sites := [], backends := [] } ↔
      normalizeTlsConfig ((config.tls.map keptTls).map undated) = config.withNormalizedTls.tls ∧
        (∀ policy ∈ config.wafPolicies, PlainSecurity policy.security) ∧
        unnamed config = {} := by
  rw [others]
  rcases config with ⟨http, https, http3, management, backends, sites, lists, policies, tls,
    headers, log, email, options, grade, size, ttl, consul, secret⟩
  simp only [Config.withNormalizedTls, unnamed, Config.mk.injEq, ← keptPolicy_eq_iff,
    ← Fallible.map_eq_self_iff, true_and]
  constructor
  · rintro ⟨rfl, rfl, rfl, rfl, policiesSame, tlsSame, rfl, rfl, rfl, rfl, rfl, rfl, rfl⟩
    exact ⟨tlsSame, policiesSame, rfl, rfl, rfl, rfl, rfl, rfl, rfl, rfl, rfl, rfl, rfl⟩
  · rintro ⟨tlsSame, policiesSame, rfl, rfl, rfl, rfl, rfl, rfl, rfl, rfl, rfl, rfl, rfl⟩
    exact ⟨rfl, rfl, rfl, rfl, policiesSame, tlsSame, rfl, rfl, rfl, rfl, rfl, rfl, rfl⟩

theorem preserves_iff {change : SiteChange} {config body : Config}
    (lasting : ∀ entry ∈ config.tls, entry.Lasting) (arrives : Arrives change config body) :
    Preserves change config body.withNormalizedTls ↔ Lossless change.plan.host config := by
  have others := others_eq_iff arrives.others
  rw [withNormalizedTls_tls_iff lasting] at others
  constructor
  · intro preserves
    rcases others.mp preserves.others with ⟨⟨challenges, credentials⟩, policies, unnamed⟩
    have sites := arrives.sites.symm.trans preserves.sites
    exact ⟨sites_eq_iff.mp sites, policies, challenges, credentials, unnamed⟩
  · intro lossless
    refine ⟨arrives.sites.trans (sites_eq_iff.mpr lossless.sites), arrives.backends, ?_⟩
    exact others.mpr
      ⟨⟨lossless.challenges, lossless.credentials⟩, lossless.policies, lossless.unnamed⟩

/-! ## The operation as a whole -/

def reported (config : Config) : Config :=
  { config with tls := (normalizeTlsConfig config.tls).map undated }

section

variable {acme : Acme} {failing : Call → Bool}

/-- What `get_config` answers: the running configuration with normalised TLS entries, dated by
the certificates if these can be listed. -/
def shown (acme : Acme) (failing : Call → Bool) (before : Server) : Config :=
  let rows := before.database.certificates.map (CertificateRow.listed acme.admin.parsers)
  { before.runtimeConfig with
    tls := (normalizeTlsConfig before.runtimeConfig.tls).map fun entry =>
      { entry with
        expiresAt :=
          if acme.admin.hasDatabase && !failing .listCertificates then
            (rows.find? fun row => certRowCoversTlsHosts row.hosts entry.hosts).bind
              CertificateRow.expiresAt
          else entry.expiresAt } }

theorem exec_buildConfig (before : Server) :
    (buildConfig acme).exec failing before = (shown acme failing before, before) := by
  cases present : acme.admin.hasDatabase <;> cases failed : failing .listCertificates <;>
    simp [buildConfig, enrichTlsExpiries, listCertificates, Routine.fails, Routine.read, shown,
      present, failed]

theorem shown_undated (before : Server) : (shown acme failing before).tls.map undated =
    (reported before.runtimeConfig).tls := by
  rw [shown, map_map]
  rfl

theorem exec_getConfig (before : Server) : exec failing (getConfig acme) before =
      ((receiveConfig (shown acme failing before)).elim (.error .decode) .ok, before) := by
  rw [getConfig, exec_bind, exec_always, exec_buildConfig]
  exact exec_check _ _ _

theorem exec_run (change : SiteChange) (before : Server) :
    (exec failing (change.run acme) before).2 =
      match change.request (shown acme failing before) with
      | some body => (exec failing (Api.putConfig acme.admin body) before).2
      | none => before := by
  rw [SiteChange.run, SiteChange.request, exec_bind, exec_check]
  cases change.validate with
  | error error => rfl
  | ok _ =>
    simp only [exec_bind, exec_getConfig, Except.isOk, Except.toBool, if_true]
    cases receiveConfig (shown acme failing before) with
    | none => rfl
    | some received =>
      simp only [Option.elim, Option.bind_some]
      cases change.edit received with
      | none => rfl
      | some edited =>
        simp only [putConfig, exec_bind, exec_check, Option.bind_some]
        cases sendConfig edited with
        | none => rfl
        | some body => simp [exec_adapt]

/-- The proxy takes new configurations and can save them. -/
def accepts (admin : Admin) (failing : Call → Bool) : Bool :=
  !admin.viewerMode && admin.hasDatabase && !failing .saveConfig

theorem exec_putConfig (admin : Admin) (body : Config) (before : Server) :
    let after := (exec failing (Api.putConfig admin body) before).2
    let config := body.withNormalizedTls
    after.database.config =
        (if accepts admin failing then some config else before.database.config) ∧
      after.runtimeConfig =
        if accepts admin failing && activates admin before.files config then config
        else before.runtimeConfig := by
  have active := @activates_iff admin before.files body.withNormalizedTls before.certStore
  have ended := @commitEnd admin failing ApiError (fun _ => { status := 500 })
    (fun _ => { status := 400 }) body.withNormalizedTls before
  cases viewer : admin.viewerMode with
  | true => simp [Api.putConfig, exec_bind, exec_check, accepts, viewer]
  | false =>
    cases present : admin.hasDatabase with
    | false => simp [Api.putConfig, requireDb, exec_bind, exec_check, accepts, viewer, present]
    | true =>
      simp only [Api.putConfig, requireDb, exec_bind, exec_check, accepts, viewer, present,
        Bool.false_eq_true, if_false, if_true]
      generalize exec failing _ before = final at ended ⊢
      rcases final with ⟨outcome, after⟩
      simp only at ended ⊢
      generalize outcome.isOk = succeeded at ended
      cases ended with
      | unsaved | unapplied | unloaded | activated =>
        simp_all [Except.isOk, Except.toBool, Server.withConfig]

variable (acme failing)

/-- A body is sent, it is accepted, and it is not already stored, or it is put in force and
not already running. -/
def Writes (change : SiteChange) (before : Server) : Prop :=
  ∃ body, change.request (shown acme failing before) = some body ∧
    accepts acme.admin failing = true ∧
      (before.database.config ≠ some body.withNormalizedTls ∨
        activates acme.admin before.files body.withNormalizedTls = true ∧
          before.runtimeConfig ≠ body.withNormalizedTls)

structure KeepsOthers (change : SiteChange) (before : Server) : Prop where
  running : let after := (exec failing (change.run acme) before).2
    after.runtimeConfig ≠ before.runtimeConfig →
      Preserves change (reported before.runtimeConfig) after.runtimeConfig
  stored : let after := (exec failing (change.run acme) before).2
    after.database.config ≠ before.database.config → ∀ config, after.database.config = some config →
      Preserves change (reported before.runtimeConfig) config

variable {acme failing}

theorem preserves_request_iff
    (requested : change.request (shown acme failing before) = some body) :
    Preserves change (reported before.runtimeConfig) body.withNormalizedTls ↔
      Lossless change.plan.host (reported before.runtimeConfig) := by
  have arrives := arrives_of_request requested
  have undatedArrives : Arrives change (reported before.runtimeConfig)
      { body with tls := (reported before.runtimeConfig).tls.map keptTls } :=
    ⟨arrives.sites, arrives.backends, by
      conv_lhs => rw [arrives.others]
      rfl⟩
  have lasting : ∀ entry ∈ (reported before.runtimeConfig).tls, entry.Lasting := by
    intro entry member
    rcases mem_map.mp member with ⟨origin, among, rfl⟩
    have lasting : origin.Lasting := lasting_of_mem_normalizeTlsConfig among
    exact lasting
  have same : (({ body with
      tls := (reported before.runtimeConfig).tls.map keptTls } : Config).tls.map undated) =
        body.tls.map undated := by
    rw [arrives.others, ← @shown_undated acme failing before]
    simp only [map_map]
    rfl
  have normalized : ({ body with
      tls := (reported before.runtimeConfig).tls.map keptTls } : Config).withNormalizedTls =
        body.withNormalizedTls :=
    congrArg (fun tls => { body with tls := normalizeTlsConfig tls }) same
  rw [← normalized]
  exact preserves_iff lasting undatedArrives

/-- A change keeps the other settings exactly when it writes nothing or the
client can carry them all. -/
theorem keeps_others_iff (change : SiteChange) (before : Server) :
    KeepsOthers acme failing change before ↔ (Writes acme failing change before →
        Lossless change.plan.host (reported before.runtimeConfig)) := by
  have state := @exec_run acme failing change before
  cases requested : change.request (shown acme failing before) with
  | none =>
    rw [requested] at state
    constructor
    · rintro _ ⟨body, sent, _⟩
      rw [requested] at sent
      cases sent
    · intro _
      exact ⟨fun running => absurd (by rw [state]) running,
        fun stored => absurd (by rw [state]) stored⟩
  | some body =>
    rw [requested] at state
    rcases @exec_putConfig failing acme.admin body before with ⟨stores, runs⟩
    simp only [← state] at stores runs
    have kept := preserves_request_iff requested
    constructor
    · rintro ⟨running, stored⟩ ⟨_, sent, accepted, changed⟩
      cases requested.symm.trans sent
      rw [if_pos accepted] at stores
      rcases changed with unstored | ⟨activated, other⟩
      · exact kept.mp (stored (stores ▸ unstored.symm) _ stores)
      · rw [if_pos (by simp [accepted, activated])] at runs
        exact kept.mp (runs ▸ running (runs ▸ other.symm))
    · intro lossless
      refine ⟨fun changed => ?_, fun changed config held => ?_⟩
      · rw [runs] at changed ⊢
        split at changed
        · next written =>
          rw [Bool.and_eq_true] at written
          rw [if_pos (by simp [written])]
          exact kept.mpr (lossless ⟨body, requested, written.1, .inr ⟨written.2, changed.symm⟩⟩)
        · exact absurd rfl changed
      · rw [stores] at changed held
        split at changed
        · next accepted =>
          rw [if_pos accepted] at held
          cases held
          exact kept.mpr (lossless ⟨body, requested, accepted, .inl changed.symm⟩)
        · exact absurd rfl changed

def oneSite (route : PathRewrite) : Server where
  runtimeConfig :=
    { backends := [{ name := "app", upstreams := [{ addr := "10.0.0.1:80" }] }]
      sites := [{ host := "a.example", backend := "app", routes := [route] }] }

def otherSite : SiteChange :=
  .apply { host := "b.example", backend := "app", routes := [{ path := "/" }] }

theorem plain_site_kept :
    let acme : Acme := ⟨{ platform := default, parsers := .byHeader }, fun _ => none, fun _ => none⟩
    Writes acme (fun _ => false) otherSite (oneSite {}) ∧
      KeepsOthers acme (fun _ => false) otherSite (oneSite {}) := by
  intro acme
  refine ⟨⟨_, rfl, rfl, .inl nofun⟩, (keeps_others_iff otherSite (oneSite {})).mpr fun _ => ?_⟩
  exact ⟨by unfold PlainSite PlainRoute PlainSecurity; decide, by simp [reported, oneSite],
    by decide, by decide, rfl⟩

/-- A site that is added for another host takes the API key off a route. -/
theorem added_site_opens_route :
    let acme : Acme := ⟨{ platform := default, parsers := .byHeader }, fun _ => none, fun _ => none⟩
    let before := oneSite { auth := some (.apiKey "secret") }
    let after := (exec (fun _ => false) (otherSite.run acme) before).2
    (before.runtimeConfig.sites.map fun site => (site.host, site.routes.map PathRewrite.auth)) =
        [("a.example".toList, [some (.apiKey "secret")])] ∧
      (after.runtimeConfig.sites.map fun site => (site.host, site.routes.map PathRewrite.auth)) =
        [("a.example".toList, [none]), ("b.example".toList, [none])] := by
  decide

end

end PertiskProxy.Terraform
